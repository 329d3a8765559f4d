/-
RegexTokens.Proofs.RecoveryTheorems — the tokens of a pattern determine the
pattern, all but its last brace.

`recover_of_scans` reads back what a derivation scans, one construct at a
time. The question mark that a group passes over is found by the token after
the group's opening: inside of a group there is always one, it starts where
the content starts (`Scans.exists_cons`), and it starts two characters on
only if a mark was passed over.

Past the end of the pattern there are only empty closing tokens
(`Scans.tokens_end`), so a quantifier recorded at the end is one that the
pattern leaves open, and the last to be read back.

The other way round, a brace behind such a pattern changes nothing
(`Stream.State.tokens_append_brace`): the quantifier takes it up.
-/
import RegexTokens.Proofs.StreamTheorems
import RegexTokens.Recovery

namespace RegexTokens

/-! ## §1 Quantifiers at the end -/

/-- The tokens hold a quantifier that is recorded at the given position. -/
def HoldsQuantifierAt (position : Nat) (ts : List Token) : Prop :=
  ∃ t ∈ ts, t.kind = .quantifier ∧ t.position = position

instance (position : Nat) (ts : List Token) : Decidable (HoldsQuantifierAt position ts) :=
  inferInstanceAs (Decidable (∃ t ∈ ts, t.kind = .quantifier ∧ t.position = position))

@[simp] theorem not_holdsQuantifierAt_nil (n : Nat) : ¬HoldsQuantifierAt n [] := by
  simp [HoldsQuantifierAt]

@[simp] theorem holdsQuantifierAt_cons {n : Nat} {t : Token} {ts : List Token} :
    HoldsQuantifierAt n (t :: ts) ↔
      (t.kind = .quantifier ∧ t.position = n) ∨ HoldsQuantifierAt n ts := by
  simp [HoldsQuantifierAt]

@[simp] theorem holdsQuantifierAt_append {n : Nat} {ts us : List Token} :
    HoldsQuantifierAt n (ts ++ us) ↔ HoldsQuantifierAt n ts ∨ HoldsQuantifierAt n us := by
  simp [HoldsQuantifierAt, or_and_right, exists_or]

theorem not_holdsQuantifierAt {n : Nat} {ts : List Token} (h : ∀ t ∈ ts, t.kind ≠ .quantifier) :
    ¬HoldsQuantifierAt n ts := by
  rintro ⟨t, ht, hk, -⟩
  exact h t ht hk

@[simp] theorem not_holdsQuantifierAt_memberTokens (n : Nat) (chars : List Char) (offset : Nat) :
    ¬HoldsQuantifierAt n (memberTokens chars offset) := by
  apply not_holdsQuantifierAt
  intro t ht
  simp [kind_of_mem_memberTokens ht]

@[simp] theorem not_holdsQuantifierAt_closers (n offset depth : Nat) :
    ¬HoldsQuantifierAt n ((List.range' offset depth).map fun i => ⟨.groupClose, "", i⟩) := by
  apply not_holdsQuantifierAt
  intro t ht
  obtain ⟨i, -, rfl⟩ := List.mem_map.1 ht
  simp

/-- Past the end of the pattern the open groups are closed, and that is all. -/
theorem Scans.tokens_end {o : Options} {depth offset : Nat} {a : Scan}
    (h : Scans o depth offset [] a) :
    a.tokens = (List.range' offset depth).map fun position => ⟨.groupClose, "", position⟩ := by
  rw [← Stream.State.tokens_of_scans h]
  rfl

theorem Scans.not_holdsQuantifierAt_end {o : Options} {depth offset : Nat} {a : Scan}
    (h : Scans o depth offset [] a) (n : Nat) : ¬HoldsQuantifierAt n a.tokens := by
  rw [h.tokens_end]
  exact not_holdsQuantifierAt_closers _ _ _

/-- A quantifier is recorded at the end of the pattern if its brace is
missing, and before the end if it is there. -/
theorem holdsQuantifierAt_quantifier {pattern body close xs : List Char} {offset : Nat}
    {text : String} {a : Scan}
    (hp : pattern.drop offset = '{' :: (body ++ (close ++ xs))) (hc : ClosedBy '}' close xs) :
    HoldsQuantifierAt pattern.length (⟨.quantifier, text, offset + 1 + body.length⟩ :: a.tokens) ↔
      close = [] ∨ HoldsQuantifierAt pattern.length a.tokens := by
  have hlen := length_of_drop hp
  simp only [List.length_cons, List.length_append] at hlen
  rw [holdsQuantifierAt_cons]
  rcases hc with rfl | ⟨rfl, rfl⟩
  · have : offset + 1 + body.length ≠ pattern.length := by
      simp only [List.length_cons] at hlen
      omega
    simp [this]
  · have : offset + 1 + body.length = pattern.length := by
      simp only [List.length_nil] at hlen
      omega
    simp [this]

/-! ## §2 The first token of a scan -/

/-- A token of one character starts where it is recorded. -/
theorem Token.start_symbol (x : Char) (text : String) (position : Nat) :
    (⟨.ofSymbol x, text, position⟩ : Token).start = position := by
  simp [start, isEscape, isOneOf, escapeKinds]

/-- An escape starts at its backslash, before the character it is recorded
at. -/
theorem Token.start_escape (x : Char) (text : String) (position : Nat) :
    (⟨.ofEscaped x, text, position⟩ : Token).start = position - 1 := by
  have h : Kind.ofEscaped x ∈ escapeKinds := Kind.ofEscaped_mem x
  simp [start, isEscape, isOneOf, h]

/-- A quantifier starts at its opening brace. -/
theorem Token.start_quantifier (body : List Char) (offset : Nat) :
    (⟨.quantifier, String.ofList ('{' :: body ++ ['}']), offset + 1 + body.length⟩ : Token).start
      = offset := by
  have hlen : (String.ofList ('{' :: body ++ ['}'])).length = body.length + 2 := by
    rw [String.length_ofList]
    simp
  have hstart : offset + 1 + body.length - (body.length + 2 - 1) = offset := by omega
  rw [start, hlen]
  exact hstart

theorem Token.isAssertion_symbol (x : Char) (text : String) (position : Nat) :
    (⟨.ofSymbol x, text, position⟩ : Token).isAssertion = false := by
  simp [isAssertion, isOneOf]

theorem Token.isAssertion_escape (x : Char) (text : String) (position : Nat) :
    (⟨.ofEscaped x, text, position⟩ : Token).isAssertion = false := by
  simp [isAssertion, isOneOf]

/-- Inside of a group a token always comes next. It starts at the next
character, or where that would have been, and it is not about the group. -/
theorem Scans.exists_cons {o : Options} {depth offset : Nat} {xs : List Char} {a : Scan}
    (h : Scans o (depth + 1) offset xs a) :
    ∃ t ts, a.tokens = t :: ts ∧ t.start = offset ∧ t.isAssertion = false := by
  cases h with
  | close _ _ => exact ⟨_, _, rfl, rfl, rfl⟩
  | group _ _ _ => exact ⟨_, _, rfl, rfl, rfl⟩
  | mark _ _ _ _ => exact ⟨_, _, rfl, rfl, rfl⟩
  | lookahead _ _ => exact ⟨_, _, rfl, rfl, rfl⟩
  | negLookahead _ _ => exact ⟨_, _, rfl, rfl, rfl⟩
  | symbol _ _ _ _ =>
    exact ⟨_, _, rfl, Token.start_symbol .., Token.isAssertion_symbol ..⟩
  | charClass _ _ _ => exact ⟨_, _, rfl, rfl, rfl⟩
  | quantifier _ _ _ => exact ⟨_, _, rfl, Token.start_quantifier .., rfl⟩
  | escape _ _ => exact ⟨_, _, rfl, Token.start_escape .., Token.isAssertion_escape ..⟩
  | backslash _ => exact ⟨_, _, rfl, rfl, rfl⟩

/-! ## §3 Reading back -/

/-- A token that is not about a group stands for its text. -/
theorem recover_cons_text {t : Token} (h : t.kind ∉ [.groupOpen, .lookahead, .negLookahead])
    (ts : List Token) : recover (t :: ts) = t.text.toList ++ recover ts := by
  rw [recover_cons]
  congr 1
  unfold Token.source
  split <;> simp_all

theorem recover_memberTokens (chars : List Char) (offset : Nat) (ts : List Token) :
    recover (memberTokens chars offset ++ ts) = chars ++ recover ts := by
  induction chars generalizing offset with
  | nil => rfl
  | cons x chars ih =>
    rw [memberTokens_cons, List.cons_append, recover_cons_text (by simp), ih]
    simp

/-- The opening of a group stands for a question mark too if the next token
starts behind one. -/
theorem recover_open {o : Options} {depth offset next : Nat} {xs : List Char} {a : Scan}
    (h : Scans o (depth + 1) next xs a) :
    recover (⟨.groupOpen, "(", offset⟩ :: a.tokens) =
      '(' :: ((if next = offset + 2 then ['?'] else []) ++ recover a.tokens) := by
  -- a group that is open has a next token even where the pattern ends
  obtain ⟨t, ts, ht, hstart, hassert⟩ := h.exists_cons
  have hnext : Token.followsMark ⟨.groupOpen, "(", offset⟩ t = decide (next = offset + 2) := by
    rw [Token.followsMark, hstart, hassert]
    rfl
  rw [recover_cons, ht]
  by_cases hmark : next = offset + 2
  · simp [Token.source, hnext, hmark]
  · simp [Token.source, hnext, hmark]

/-- The tokens of a scan stand for its characters, and for the brace that is
missing from a quantifier at the end. -/
theorem recover_of_scans {o : Options} {depth offset : Nat} {pattern xs : List Char} {a : Scan}
    (h : Scans o depth offset xs a) (hp : pattern.drop offset = xs) :
    recover a.tokens =
      xs ++ if HoldsQuantifierAt pattern.length a.tokens then ['}'] else [] := by
  induction h with
  | done => simp
  | close hc _ ih =>
    have hp' := drop_after_close hp hc
    rw [Scan.tokens_append, Scan.tokens_closer, List.singleton_append,
      recover_cons_text (by simp), ih hp']
    simp
  | group hopen hx ha ih =>
    have hp' := drop_add_of_drop hp 1
    rw [Scan.tokens_append, List.singleton_append, recover_open ha, ih hp']
    simp
  | mark hopen he hn ha ih =>
    have hp' := drop_add_of_drop hp 2
    rw [Scan.tokens_append, List.singleton_append, recover_open ha, ih hp']
    simp
  | lookahead hopen _ ih =>
    have hp' := drop_add_of_drop hp 3
    rw [Scan.tokens_append]
    simp [recover_cons, Token.source, Token.followsMark, Token.isAssertion, Token.isOneOf, ih hp']
  | negLookahead hopen _ ih =>
    have hp' := drop_add_of_drop hp 3
    rw [Scan.tokens_append]
    simp [recover_cons, Token.source, Token.followsMark, Token.isAssertion, Token.isOneOf, ih hp']
  | symbol hclose hopen hx _ ih =>
    have hp' := drop_add_of_drop hp 1
    rw [Scan.tokens_append, Scan.tokens_single, List.singleton_append,
      recover_cons_text (by simp), ih hp']
    simp
  | charClass hb hc _ ih =>
    have hp' := drop_after_body hp hc
    simp only [Scan.tokens_append, Scan.tokens_closer, List.cons_append, List.append_assoc,
      List.nil_append]
    rw [recover_cons_text (by simp), recover_memberTokens, recover_cons_text (by simp), ih hp']
    simp
  | quantifier hb hc ha ih =>
    have hp' := drop_after_body hp hc
    simp only [Scan.tokens_append, List.cons_append, List.nil_append]
    rw [recover_cons_text (by simp), ih hp']
    simp only [holdsQuantifierAt_quantifier hp hc]
    rcases hc with rfl | ⟨rfl, rfl⟩
    · simp
    · simp [ha.not_holdsQuantifierAt_end]
  | escape hc _ ih =>
    have hp' := drop_after_code hp hc
    rw [Scan.tokens_append, List.singleton_append, recover_cons_text (by simp), ih hp']
    simp
  | backslash _ ih =>
    have hp' := drop_add_of_drop hp 2
    rw [Scan.tokens_append, List.singleton_append, recover_cons_text (by simp), ih hp']
    simp

/-! ## §4 The missing brace -/

namespace Stream.State

variable {o : Options}

/-- A quantifier that a character completes is recorded at this character. -/
theorem position_of_step {s : State} {x : Char} {t : Token} (ht : t ∈ (s.step o x).tokens)
    (hk : t.kind = .quantifier) : t.position = s.offset := by
  have hrule := rule_step o s x
  generalize s.step o x = u at ht hrule
  cases hrule with
  | quantifierEnd =>
    rw [List.mem_singleton.1 ht]
    rfl
  | escaped hw => simp_all [step.escape]
  | codeEnd hw => simp_all [step.escape]
  | _ => simp_all

/-- A stream that ends in a quantifier is in the quantifier at its end. -/
theorem mode_of_close {s : State} (h : HoldsQuantifierAt s.offset s.close) :
    ∃ body, s.mode = .inQuantifier body := by
  obtain ⟨mode, depth, offset⟩ := s
  cases mode with
  | inQuantifier body => exact ⟨body, rfl⟩
  | normal => exact absurd h (not_holdsQuantifierAt_closers _ _ _)
  | afterOpen => exact absurd h (not_holdsQuantifierAt_closers _ _ _)
  | afterMark => exact absurd h (not_holdsQuantifierAt_closers _ _ _)
  | inClass => simp [close, closeMode] at h
  | afterBackslash => simp [close, closeMode] at h
  | inCode marker place code => simp [close, closeMode, step.escape] at h

/-- A brace at the end closes the quantifier that is open there, and the
tokens stay the same. -/
theorem tokens_append_brace {s : State} {xs : List Char}
    (h : HoldsQuantifierAt (s.offset + xs.length) (tokens o s xs)) :
    tokens o s (xs ++ ['}']) = tokens o s xs := by
  induction xs generalizing s with
  | nil =>
    obtain ⟨body, hm⟩ := mode_of_close h
    obtain ⟨mode, depth, offset⟩ := s
    subst hm
    rfl
  | cons x xs ih =>
    rw [List.cons_append, tokens_cons, tokens_cons]
    congr 1
    apply ih
    rw [tokens_cons, holdsQuantifierAt_append] at h
    rcases h with ⟨t, ht, hk, hpos⟩ | h
    · -- what `x` completes is recorded before the end
      rw [position_of_step ht hk, List.length_cons] at hpos
      omega
    · rwa [List.length_cons, Nat.add_comm xs.length, ← Nat.add_assoc] at h

end Stream.State

/-! ## §5 Patterns and tokens -/

/-- The tokens of a pattern end in a quantifier whose brace is missing. -/
def EndsOpen (pattern : String) (o : Options) : Prop :=
  HoldsQuantifierAt pattern.length (tokenize pattern o)

instance (pattern : String) (o : Options) : Decidable (EndsOpen pattern o) :=
  inferInstanceAs (Decidable (HoldsQuantifierAt pattern.length (tokenize pattern o)))

theorem recover_tokenize (pattern : String) (o : Options) :
    recover (tokenize pattern o) = pattern.toList ++ if EndsOpen pattern o then ['}'] else [] := by
  rw [tokenize, recover_of_scans (scans_scan pattern o) List.drop_zero, String.length_toList]
  rfl

theorem ofList_recover_tokenize (pattern : String) (o : Options) :
    String.ofList (recover (tokenize pattern o)) =
      if EndsOpen pattern o then pattern.push '}' else pattern := by
  rw [recover_tokenize]
  split
  · apply String.toList_inj.1
    rw [String.toList_ofList, String.toList_push]
  · rw [List.append_nil, String.ofList_toList]

/-- Patterns with the same tokens are the same, but for a brace that is
missing from one of them. -/
theorem eq_or_push_of_tokenize_eq {p q : String} {o o' : Options}
    (h : tokenize p o = tokenize q o') :
    p = q ∨ (q = p.push '}' ∧ EndsOpen p o) ∨ (p = q.push '}' ∧ EndsOpen q o') := by
  have hr : String.ofList (recover (tokenize p o)) = String.ofList (recover (tokenize q o')) := by
    rw [h]
  rw [ofList_recover_tokenize, ofList_recover_tokenize] at hr
  by_cases hp : EndsOpen p o
  · by_cases hq : EndsOpen q o'
    · rw [if_pos hp, if_pos hq] at hr
      exact .inl (String.push_inj.1 hr).1
    · rw [if_pos hp, if_neg hq] at hr
      exact .inr (.inl ⟨hr.symm, hp⟩)
  · by_cases hq : EndsOpen q o'
    · rw [if_neg hp, if_pos hq] at hr
      exact .inr (.inr ⟨hr, hq⟩)
    · rw [if_neg hp, if_neg hq] at hr
      exact .inl hr

/-- A missing brace may be added. -/
theorem tokenize_push_brace {pattern : String} {o : Options} (h : EndsOpen pattern o) :
    tokenize pattern o = tokenize (pattern.push '}') o := by
  rw [tokenize_eq_stream, tokenize_eq_stream, String.toList_push]
  refine (Stream.State.tokens_append_brace ?_).symm
  rw [EndsOpen, tokenize_eq_stream, ← String.length_toList] at h
  rwa [Nat.zero_add]

/-- Decoding gives the pattern back, and a brace too where the last one is
missing. Patterns with the same tokens differ at most in this brace, and
where it is missing it may be added. -/
theorem tokens_determine_pattern :
    (∀ (p : String) (o : Options),
      String.ofList (recover (tokenize p o)) = if EndsOpen p o then p.push '}' else p) ∧
    (∀ (p q : String) (o o' : Options), tokenize p o = tokenize q o' →
      p = q ∨ (q = p.push '}' ∧ EndsOpen p o) ∨ (p = q.push '}' ∧ EndsOpen q o')) ∧
    ∀ (p : String) (o : Options), EndsOpen p o → tokenize p o = tokenize (p.push '}') o := by
  refine ⟨?_, ?_, ?_⟩
  · intro p o
    exact ofList_recover_tokenize p o
  · intro p q o o' h
    exact eq_or_push_of_tokenize_eq h
  · intro p o h
    exact tokenize_push_brace h

/-- A quantifier left open inside of a group has the tokens of a closed one. -/
theorem tokens_determine_pattern_brace :
    (tokenize "(a\x7b1" {} = tokenize "(a\x7b1\x7d" { nestedGroups := true } ∧
      ("(a\x7b1" = "(a\x7b1\x7d" ∨ ("(a\x7b1\x7d" = "(a\x7b1".push '}' ∧ EndsOpen "(a\x7b1" {}) ∨
        ("(a\x7b1" = "(a\x7b1\x7d".push '}' ∧ EndsOpen "(a\x7b1\x7d" { nestedGroups := true }))) ∧
    EndsOpen "(a\x7b1" {} ∧ tokenize "(a\x7b1" {} = tokenize ("(a\x7b1".push '}') {} := by
  have heq : tokenize "(a\x7b1" {} = tokenize "(a\x7b1\x7d" { nestedGroups := true } := by
    rw [tokenize_eq_stream, tokenize_eq_stream]
    rfl
  have hopen : EndsOpen "(a\x7b1" {} := by
    rw [EndsOpen, tokenize_eq_stream]
    decide
  exact ⟨⟨heq, tokens_determine_pattern.2.1 _ _ _ _ heq⟩, hopen,
    tokens_determine_pattern.2.2 _ _ hopen⟩

end RegexTokens
