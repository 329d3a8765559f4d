/-
RegexTokens.Proofs.SettledTheorems — more text behind a pattern leaves the
tokens as they are that lie wholly inside of it.

A token is settled if it is recorded before the end of its pattern and its
code, if it has one, is there to the last digit. What the characters of a
pattern complete is settled (`isSettled_of_mem_emitted`), and what only the
end of the pattern gives out is not (`not_isSettled_of_mem_close`): it is
recorded at the end or behind it, or it is a code that the end cuts short. So
the settled tokens are the ones that a stream has given out when the pattern
ends, wherever it ends, and these come first whatever follows
(`tokens_append`).
-/
import RegexTokens.Proofs.StreamEnds

namespace RegexTokens

/-! ## §1 Settled tokens -/

/-- Digits are missing from the code of the token. -/
def Token.HasShortCode (t : Token) : Prop :=
  t.kind ∈ [.unicodeEscape, .hexEscape] ∧ t.text.length < t.kind.codeWidth + 2

/-- The token lies wholly inside of a pattern of `n` characters. -/
def Token.IsSettled (n : Nat) (t : Token) : Prop := t.position < n ∧ ¬t.HasShortCode

instance (t : Token) : Decidable t.HasShortCode :=
  inferInstanceAs (Decidable (_ ∧ _))

instance (n : Nat) (t : Token) : Decidable (t.IsSettled n) :=
  inferInstanceAs (Decidable (_ ∧ _))

theorem Token.HasShortCode.isCut {t : Token} (h : t.HasShortCode) : t.IsCut := by
  obtain ⟨hkind, hlength⟩ := h
  have hescape : t.kind ∈ escapeKinds := by
    have hcodes : ∀ kind ∈ [Kind.unicodeEscape, .hexEscape], kind ∈ escapeKinds := by decide
    exact hcodes _ hkind
  rw [IsCut, Kind.minLength, if_pos hescape]
  exact hlength

/-- Only a kind that has a code can have a short one. -/
theorem Token.hasShortCode_iff_of_codeWidth {t : Token} (h : t.kind.codeWidth ≠ 0) :
    t.HasShortCode ↔ t.text.length < t.kind.codeWidth + 2 := by
  refine ⟨And.right, fun hlength => ⟨?_, hlength⟩⟩
  generalize t.kind = kind at h ⊢
  cases kind with
  | unicodeEscape => decide
  | hexEscape => decide
  | _ => exact absurd rfl h

namespace Stream.State

variable {o : Options}

/-! ## §2 What the characters complete -/

/-- A token that a character completes is recorded at the character, or before
it. -/
theorem position_le_of_step {s : State} (hs : s.Consistent) {x : Char} {t : Token}
    (ht : t ∈ (s.step o x).tokens) : t.position ≤ s.offset := by
  have hrule := rule_step o s x
  generalize s.step o x = u at ht hrule
  cases hrule with
  | brace hm => exact absurd ht List.not_mem_nil
  | backslash hm => exact absurd ht List.not_mem_nil
  | mark => exact absurd ht List.not_mem_nil
  | bodyChar hx => exact absurd ht List.not_mem_nil
  | marker hw => exact absurd ht List.not_mem_nil
  | codeChar hw => exact absurd ht List.not_mem_nil
  | codeEnd hw =>
    -- the only token that is recorded before its last character
    obtain ⟨hoffset, -⟩ := hs
    rw [List.mem_singleton.1 ht]
    dsimp only [step.escape] at hoffset ⊢
    omega
  | _ => exact Nat.le_of_eq (congrArg Token.position (List.mem_singleton.1 ht))

theorem isSettled_of_mem_emitted {s : State} (hs : s.Consistent) {xs : List Char} {t : Token}
    (ht : t ∈ emitted o s xs) : t.IsSettled (s.offset + xs.length) := by
  refine ⟨?_, fun hshort => not_isCut_of_mem_emitted ht hshort.isCut⟩
  induction xs generalizing s with
  | nil => exact absurd ht List.not_mem_nil
  | cons x xs ih =>
    rw [emitted, List.mem_append] at ht
    rcases ht with ht | ht
    · have hle := position_le_of_step hs ht
      rw [List.length_cons]
      omega
    · have hlt : t.position < s.offset + 1 + xs.length := ih (hs.after x) ht
      rw [List.length_cons]
      omega

/-! ## §3 What is left open at the end -/

/-- The token in progress at the end is not settled. -/
theorem not_isSettled_of_mem_closeMode {s : State} (hs : s.Consistent) {t : Token}
    (ht : t ∈ s.closeMode.1) : ¬t.IsSettled s.offset := by
  rintro ⟨hlt, hcode⟩
  obtain ⟨mode, depth, offset⟩ := s
  cases mode with
  | normal => exact absurd ht List.not_mem_nil
  | afterOpen => exact absurd ht List.not_mem_nil
  | afterMark => exact absurd ht List.not_mem_nil
  | inCode marker place code =>
    obtain ⟨-, hlength⟩ := hs
    have hwidth : (Kind.ofEscaped marker).codeWidth ≠ 0 := Nat.ne_of_gt (Nat.zero_lt_of_lt hlength)
    rw [List.mem_singleton.1 ht] at hcode
    refine hcode ((Token.hasShortCode_iff_of_codeWidth hwidth).2 ?_)
    rw [length_escape]
    exact Nat.add_lt_add_right hlength 2
  | _ =>
    rw [List.mem_singleton.1 ht] at hlt
    exact Nat.lt_irrefl _ hlt

theorem not_isSettled_of_mem_close {s : State} (hs : s.Consistent) {t : Token}
    (ht : t ∈ s.close) : ¬t.IsSettled s.offset := by
  rcases List.mem_append.1 ht with ht | ht
  · exact not_isSettled_of_mem_closeMode hs ht
  · obtain ⟨position, hposition, rfl⟩ := List.mem_map.1 ht
    rintro ⟨hlt, -⟩
    have hle := hs.offset_le_closeMode
    have hmem := (List.mem_range'_1.1 hposition).1
    exact absurd hlt (Nat.not_lt.2 (Nat.le_trans hle hmem))

/-- The settled tokens of a stream are those that its characters complete. -/
theorem filter_isSettled_tokens {s : State} (hs : s.Consistent) (xs : List Char) :
    (tokens o s xs).filter (·.IsSettled (s.offset + xs.length)) = emitted o s xs := by
  have hemitted : (emitted o s xs).filter (·.IsSettled (s.offset + xs.length)) =
      emitted o s xs := by
    rw [List.filter_eq_self]
    intro t ht
    exact decide_eq_true (isSettled_of_mem_emitted hs ht)
  have hclose : (run o s xs).close.filter (·.IsSettled (s.offset + xs.length)) = [] := by
    rw [List.filter_eq_nil_iff, ← offset_run o]
    intro t ht hsettled
    exact not_isSettled_of_mem_close (hs.run xs) ht (of_decide_eq_true hsettled)
  rw [tokens_eq_emitted_append, List.filter_append, hemitted, hclose, List.append_nil]

/-- A settled token stays where it is if more characters come. -/
theorem getElem?_tokens_append {s : State} (hs : s.Consistent) {xs : List Char} {i : Nat}
    {t : Token} (ht : (tokens o s xs)[i]? = some t) (hsettled : t.IsSettled (s.offset + xs.length))
    (ys : List Char) : (tokens o s (xs ++ ys))[i]? = some t := by
  rw [tokens_eq_emitted_append, List.getElem?_append] at ht
  rw [tokens_append, List.getElem?_append]
  split at ht
  · rename_i hi
    rw [if_pos hi]
    exact ht
  · have hmem : t ∈ (run o s xs).close := List.mem_of_getElem? ht
    rw [← offset_run o] at hsettled
    exact absurd hsettled (not_isSettled_of_mem_close (hs.run xs) hmem)

end Stream.State

/-! ## §4 Patterns -/

/-- Whatever follows a pattern, its settled tokens are found again at their
places, and they come before all others of its tokens. -/
theorem settled_tokens_remain (p q : String) (o : Options) :
    (∀ (i : Nat) (t : Token), (tokenize p o)[i]? = some t → t.IsSettled p.length →
      (tokenize (p ++ q) o)[i]? = some t) ∧
    (tokenize p o).filter (·.IsSettled p.length) <+: tokenize p o := by
  have hlength : p.length = ({} : Stream.State).offset + p.toList.length := by
    rw [String.length_toList, Nat.zero_add]
  rw [tokenize_eq_stream, tokenize_eq_stream, String.toList_append, hlength, Stream.tokens,
    Stream.tokens]
  refine ⟨?_, ?_⟩
  · intro i t ht hsettled
    exact Stream.State.getElem?_tokens_append Stream.State.consistent_start ht hsettled q.toList
  · rw [Stream.State.filter_isSettled_tokens Stream.State.consistent_start,
      Stream.State.tokens_eq_emitted_append]
    exact List.prefix_append _ _

/-- A pattern that ends inside of a code, inside of a group: what stands before
the code is settled. -/
theorem settled_tokens_remain_code :
    (tokenize "(a\\u12" {})[1]? = some ⟨.char, "a", 1⟩ ∧
      (⟨.char, "a", 1⟩ : Token).IsSettled "(a\\u12".length ∧
      (tokenize ("(a\\u12" ++ "34)") {})[1]? = some ⟨.char, "a", 1⟩ := by
  have htoken : (tokenize "(a\\u12" {})[1]? = some ⟨.char, "a", 1⟩ := by
    rw [tokenize_eq_stream]
    rfl
  have hsettled : (⟨.char, "a", 1⟩ : Token).IsSettled "(a\\u12".length := by decide
  exact ⟨htoken, hsettled, (settled_tokens_remain "(a\\u12" "34)" {}).1 1 _ htoken hsettled⟩

end RegexTokens
