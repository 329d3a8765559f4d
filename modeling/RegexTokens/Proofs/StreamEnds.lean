/-
RegexTokens.Proofs.StreamEnds — what a stream has given out when its
characters end, and what it leaves open there.

`tokens_append` cuts a stream in two: the tokens that the first characters
complete (`emitted`) come first, whatever follows, and the state after these
characters is all that the others meet.

Tokens that are given out at the end can be cut short by it (`Token.IsCut`):
a closing token has no text then, an escape lacks its code or the character
behind the backslash. No character ever completes a token that is cut
(`not_isCut_of_mem_emitted`), so a cut token tells where its pattern ended
(`length_le_cutOffset`).
-/
import RegexTokens.Proofs.StreamTheorems

namespace RegexTokens

/-! ## §1 A stream cut in two -/

namespace Stream.State

variable {o : Options}

/-- The tokens that some characters complete. -/
def emitted (o : Options) (s : State) : List Char → List Token
  | [] => []
  | x :: xs => (s.step o x).tokens ++ emitted o (s.after o x) xs

theorem tokens_append (o : Options) (s : State) (xs ys : List Char) :
    tokens o s (xs ++ ys) = emitted o s xs ++ tokens o (run o s xs) ys := by
  induction xs generalizing s with
  | nil => rfl
  | cons x xs ih => rw [List.cons_append, tokens_cons, ih, emitted, run_cons, List.append_assoc]

theorem tokens_eq_emitted_append (o : Options) (s : State) (xs : List Char) :
    tokens o s xs = emitted o s xs ++ (run o s xs).close := by
  have h := tokens_append o s xs []
  rwa [List.append_nil, tokens_nil] at h

@[simp] theorem offset_run (o : Options) (s : State) (xs : List Char) :
    (run o s xs).offset = s.offset + xs.length := by
  induction xs generalizing s with
  | nil => rfl
  | cons x xs ih =>
    rw [run_cons, ih, List.length_cons]
    exact Nat.add_right_comm s.offset 1 xs.length

/-! ## §2 States that a stream can be in -/

/-- The mode of the state agrees with its depth and offset: a group that was
just opened is open, and the part of a code that was read is not all of it and
lies between its marker and the offset. -/
def Consistent (s : State) : Prop :=
  match s.mode with
  | .afterOpen | .afterMark => 0 < s.depth
  | .inCode marker place code =>
    s.offset = place + 1 + code.length ∧ code.length < (Kind.ofEscaped marker).codeWidth
  | _ => True

theorem consistent_start : ({} : State).Consistent := trivial

theorem Consistent.after {s : State} (hs : s.Consistent) (x : Char) :
    (s.after o x).Consistent := by
  have hrule := rule_step o s x
  unfold State.after
  generalize s.step o x = t at hrule ⊢
  cases hrule with
  | opens hm hopen => exact Nat.succ_pos _
  | mark => exact hs
  | marker hw => exact ⟨rfl, Nat.pos_of_ne_zero hw⟩
  | @codeChar marker place code depth offset x hw =>
    obtain ⟨hoffset, hlt⟩ := hs
    refine ⟨?_, ?_⟩
    · rw [List.length_append, List.length_singleton, ← Nat.add_assoc, ← hoffset]
    · rw [List.length_append, List.length_singleton]
      omega
  | _ => trivial

theorem Consistent.run {s : State} (hs : s.Consistent) (xs : List Char) :
    (run o s xs).Consistent := by
  induction xs generalizing s with
  | nil => exact hs
  | cons x xs ih => exact ih (hs.after x)

/-- In a consistent state nothing is left open exactly if a pattern could
start there. -/
theorem Consistent.closeOffset_eq_iff {s : State} (hs : s.Consistent) :
    s.closeOffset = s.offset ↔ s = ⟨.normal, 0, s.offset⟩ := by
  obtain ⟨mode, depth, offset⟩ := s
  cases mode with
  | normal => simp [closeOffset, closeMode]
  | afterOpen =>
    have hdepth : depth ≠ 0 := Nat.ne_of_gt hs
    simp [closeOffset, closeMode, hdepth]
  | afterMark =>
    have hdepth : depth ≠ 0 := Nat.ne_of_gt hs
    simp [closeOffset, closeMode, hdepth]
  | inClass =>
    simp [closeOffset, closeMode]
    omega
  | inQuantifier body =>
    simp [closeOffset, closeMode]
    omega
  | afterBackslash =>
    simp [closeOffset, closeMode]
    omega
  | inCode marker place code =>
    obtain ⟨hoffset, hlt⟩ := hs
    simp [closeOffset, closeMode]
    dsimp only at hoffset
    omega

end Stream.State

/-! ## §3 Tokens that are cut short -/

/-- How many characters the text of a token has at least where none are
missing. -/
def Kind.minLength (kind : Kind) : Nat :=
  if kind ∈ Token.escapeKinds then kind.codeWidth + 2 else 1

/-- Characters are missing from the text of the token. -/
def Token.IsCut (t : Token) : Prop := t.text.length < t.kind.minLength

/-- The offset that the text of a token goes up to if it is cut. -/
def Token.cutOffset (t : Token) : Nat := t.position + (t.text.length - 1)

theorem Kind.minLength_ofSymbol (x : Char) : (Kind.ofSymbol x).minLength = 1 := by
  have h : ∀ k ∈ [Kind.char, .metaChar, .pipe, .anchor], k.minLength = 1 := by decide
  exact h _ (ofSymbol_mem x)

theorem Kind.minLength_ofEscaped (x : Char) :
    (Kind.ofEscaped x).minLength = (Kind.ofEscaped x).codeWidth + 2 :=
  if_pos (ofEscaped_mem x)

namespace Stream.State

variable {o : Options}

theorem length_escape (marker : Char) (code : List Char) (position : Nat) :
    (step.escape marker code position).text.length = code.length + 2 := by
  show (String.ofList ('\\' :: marker :: code)).length = code.length + 2
  rw [String.length_ofList]
  rfl

theorem cutOffset_escape (marker : Char) (code : List Char) (position : Nat) :
    (step.escape marker code position).cutOffset = position + 1 + code.length := by
  have hposition : (step.escape marker code position).position = position := rfl
  rw [Token.cutOffset, length_escape, hposition]
  omega

/-- An escape is cut if its code is. -/
theorem isCut_escape {marker : Char} {code : List Char} {position : Nat} :
    (step.escape marker code position).IsCut ↔
      code.length < (Kind.ofEscaped marker).codeWidth := by
  have hkind : (step.escape marker code position).kind = .ofEscaped marker := rfl
  rw [Token.IsCut, length_escape, hkind, Kind.minLength_ofEscaped]
  omega

theorem not_isCut_quantifier (body : List Char) (position : Nat) :
    ¬(step.quantifier body position).IsCut := by
  have hlen : (step.quantifier body position).text.length = body.length + 2 := by
    show (String.ofList ('{' :: body ++ ['}'])).length = body.length + 2
    rw [String.length_ofList]
    simp
  have hmin : (step.quantifier body position).kind.minLength = 1 := rfl
  rw [Token.IsCut, hlen, hmin]
  omega

/-- A token that is no escape is not cut if it has any text. -/
theorem not_isCut_of_text_ne {t : Token} (hk : t.kind.minLength = 1) (ht : t.text ≠ "") :
    ¬t.IsCut := by
  have hlen : t.text.length ≠ 0 := fun h => ht (String.length_eq_zero_iff.1 h)
  rw [Token.IsCut, hk]
  omega

theorem not_isCut_singleton {kind : Kind} (hk : kind.minLength = 1) (x : Char) (position : Nat) :
    ¬(⟨kind, String.singleton x, position⟩ : Token).IsCut := by
  refine not_isCut_of_text_ne hk fun h => ?_
  have hlen : (String.singleton x).length = 0 := String.length_eq_zero_iff.2 h
  rw [String.length_singleton] at hlen
  exact absurd hlen Nat.one_ne_zero

/-- A token that a character completes is not cut. -/
theorem not_isCut_of_step {s : State} {x : Char} {t : Token} (ht : t ∈ (s.step o x).tokens) :
    ¬t.IsCut := by
  have hrule := rule_step o s x
  generalize s.step o x = u at ht hrule
  cases hrule with
  | symbol hm hclose hopen hx =>
    rw [List.mem_singleton.1 ht]
    exact not_isCut_singleton (Kind.minLength_ofSymbol x) x _
  | member hx =>
    rw [List.mem_singleton.1 ht]
    exact not_isCut_singleton rfl x _
  | quantifierEnd =>
    rw [List.mem_singleton.1 ht]
    exact not_isCut_quantifier _ _
  | escaped hw =>
    rw [List.mem_singleton.1 ht, isCut_escape, hw]
    exact Nat.not_lt_zero _
  | codeEnd hw =>
    rw [List.mem_singleton.1 ht, isCut_escape, List.length_append, List.length_singleton, hw]
    exact Nat.lt_irrefl _
  | brace hm => exact absurd ht List.not_mem_nil
  | backslash hm => exact absurd ht List.not_mem_nil
  | mark => exact absurd ht List.not_mem_nil
  | bodyChar hx => exact absurd ht List.not_mem_nil
  | marker hw => exact absurd ht List.not_mem_nil
  | codeChar hw => exact absurd ht List.not_mem_nil
  | _ =>
    -- the kinds that are left have one text each
    rw [List.mem_singleton.1 ht]
    exact not_isCut_of_text_ne rfl (by simp)

theorem not_isCut_of_mem_emitted {s : State} {xs : List Char} {t : Token}
    (ht : t ∈ emitted o s xs) : ¬t.IsCut := by
  induction xs generalizing s with
  | nil => exact absurd ht List.not_mem_nil
  | cons x xs ih =>
    rw [emitted, List.mem_append] at ht
    rcases ht with ht | ht
    · exact not_isCut_of_step ht
    · exact ih ht

/-- The token in progress at the end goes up to the end if it is cut. -/
theorem le_cutOffset_of_mem_closeMode {s : State} (hs : s.Consistent) {t : Token}
    (ht : t ∈ s.closeMode.1) (hcut : t.IsCut) : s.offset ≤ t.cutOffset := by
  obtain ⟨mode, depth, offset⟩ := s
  cases mode with
  | normal => exact absurd ht List.not_mem_nil
  | afterOpen => exact absurd ht List.not_mem_nil
  | afterMark => exact absurd ht List.not_mem_nil
  | inClass =>
    rw [List.mem_singleton.1 ht]
    exact Nat.le_add_right _ _
  | inQuantifier body =>
    rw [List.mem_singleton.1 ht] at hcut
    exact absurd hcut (not_isCut_quantifier body _)
  | afterBackslash =>
    rw [List.mem_singleton.1 ht]
    exact Nat.le_add_right _ _
  | inCode marker place code =>
    obtain ⟨hoffset, -⟩ := hs
    rw [List.mem_singleton.1 ht, cutOffset_escape]
    exact Nat.le_of_eq hoffset

theorem Consistent.offset_le_closeMode {s : State} (hs : s.Consistent) :
    s.offset ≤ s.closeMode.2 := by
  obtain ⟨mode, depth, offset⟩ := s
  cases mode with
  | normal => exact Nat.le_refl _
  | afterOpen => exact Nat.le_refl _
  | afterMark => exact Nat.le_refl _
  | inClass => exact Nat.le_succ _
  | inQuantifier body => exact Nat.le_succ _
  | afterBackslash => exact Nat.le_succ _
  | inCode marker place code =>
    obtain ⟨hoffset, hlt⟩ := hs
    dsimp only [closeMode] at hoffset ⊢
    omega

/-- A token that is cut goes up to the end of its pattern, or lies behind
it. -/
theorem length_le_cutOffset {s : State} (hs : s.Consistent) {xs : List Char} {t : Token}
    (ht : t ∈ tokens o s xs) (hcut : t.IsCut) : s.offset + xs.length ≤ t.cutOffset := by
  rw [tokens_eq_emitted_append, List.mem_append] at ht
  rcases ht with ht | ht
  · exact absurd hcut (not_isCut_of_mem_emitted ht)
  · have hrun : (run o s xs).Consistent := hs.run xs
    rw [← offset_run o]
    rcases List.mem_append.1 ht with ht | ht
    · exact le_cutOffset_of_mem_closeMode hrun ht hcut
    · obtain ⟨position, hposition, rfl⟩ := List.mem_map.1 ht
      have hle := hrun.offset_le_closeMode
      have hmem := (List.mem_range'_1.1 hposition).1
      exact Nat.le_trans (Nat.le_trans hle hmem) (Nat.le_add_right _ _)

/-- An open group is closed without text where the pattern ends, if no token
is in progress. -/
theorem exists_isCut_of_depth_ne_zero {s : State} (hmode : s.closeMode = ([], s.offset))
    (hdepth : s.depth ≠ 0) : ∃ t ∈ s.close, t.IsCut ∧ t.cutOffset = s.offset := by
  refine ⟨⟨.groupClose, "", s.offset⟩, ?_, Nat.zero_lt_one, rfl⟩
  have hlt : s.offset < s.offset + s.depth :=
    Nat.lt_add_of_pos_right (Nat.pos_of_ne_zero hdepth)
  rw [close, hmode]
  exact List.mem_map.2 ⟨s.offset, List.mem_range'_1.2 ⟨Nat.le_refl _, hlt⟩, rfl⟩

/-- Whatever is left open gives out a token that is cut at the end, unless it
is a quantifier, which gets its brace. -/
theorem Consistent.exists_isCut_or_inQuantifier {s : State} (hs : s.Consistent)
    (h : s.closeOffset ≠ s.offset) :
    (∃ t ∈ s.close, t.IsCut ∧ t.cutOffset = s.offset) ∨ ∃ body, s.mode = .inQuantifier body := by
  obtain ⟨mode, depth, offset⟩ := s
  cases mode with
  | normal =>
    refine .inl (exists_isCut_of_depth_ne_zero rfl ?_)
    rintro rfl
    exact h rfl
  | afterOpen => exact .inl (exists_isCut_of_depth_ne_zero rfl (Nat.ne_of_gt hs))
  | afterMark => exact .inl (exists_isCut_of_depth_ne_zero rfl (Nat.ne_of_gt hs))
  | inClass =>
    exact .inl ⟨_, List.mem_append_left _ (List.mem_singleton_self _), Nat.zero_lt_one, rfl⟩
  | inQuantifier body => exact .inr ⟨body, rfl⟩
  | afterBackslash =>
    have hlen : "\\".length = 1 := by decide
    refine .inl ⟨⟨.escape, "\\", offset⟩,
      List.mem_append_left _ (List.mem_singleton_self _), ?_, ?_⟩
    · show "\\".length < 2
      rw [hlen]
      exact Nat.one_lt_two
    · rw [Token.cutOffset, hlen]
      rfl
  | inCode marker place code =>
    obtain ⟨hoffset, hlt⟩ := hs
    refine .inl ⟨_, List.mem_append_left _ (List.mem_singleton_self _), isCut_escape.2 hlt, ?_⟩
    rw [cutOffset_escape]
    exact hoffset.symm

end Stream.State

end RegexTokens
