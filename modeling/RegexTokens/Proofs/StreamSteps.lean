/-
RegexTokens.Proofs.StreamSteps — all that a stream can do with a character.

`Rule o s x t` has one rule for each step `t` that a state makes with a
character. A rule names the character where only one is meant, and gives the
mode and the tokens of the step in full, so that what all steps have in common
is proved by one case for each rule. `Rule.step_eq` and `rule_step` say that
the steps of the rules are the steps of a stream.

Outside of all constructs a character means the same in three modes, but for
those that are about the opening of a group right behind it (`IsPlain`).
-/
import RegexTokens.Proofs.Derivation
import RegexTokens.Stream

namespace RegexTokens.Stream.State

/-- No construct is open but groups, and the character says nothing about the
opening of the innermost. -/
def IsPlain (mode : Mode) (x : Char) : Prop :=
  match mode with
  | .normal => True
  | .afterOpen => x ≠ '?'
  | .afterMark => x ≠ '=' ∧ x ≠ '!'
  | _ => False

theorem isPlain_normal (x : Char) : IsPlain .normal x := trivial

theorem isPlain_afterOpen {x : Char} (h : x ≠ '?') : IsPlain .afterOpen x := h

theorem isPlain_afterMark {x : Char} (h : x ≠ '=') (h' : x ≠ '!') : IsPlain .afterMark x :=
  ⟨h, h'⟩

/-- The step of a state with a character. -/
inductive Rule (o : Options) : State → Char → Step → Prop
  | opens {mode : Mode} {depth offset : Nat} : IsPlain mode '(' → o.Opens depth →
    Rule o ⟨mode, depth, offset⟩ '(' ⟨.afterOpen, depth + 1, [⟨.groupOpen, "(", offset⟩]⟩
  | closes {mode : Mode} {depth offset : Nat} : IsPlain mode ')' →
    Rule o ⟨mode, depth + 1, offset⟩ ')' ⟨.normal, depth, [⟨.groupClose, ")", offset⟩]⟩
  | bracket {mode : Mode} {depth offset : Nat} : IsPlain mode '[' →
    Rule o ⟨mode, depth, offset⟩ '[' ⟨.inClass, depth, [⟨.rangeOpen, "[", offset⟩]⟩
  | brace {mode : Mode} {depth offset : Nat} : IsPlain mode '{' →
    Rule o ⟨mode, depth, offset⟩ '{' ⟨.inQuantifier [], depth, []⟩
  | backslash {mode : Mode} {depth offset : Nat} : IsPlain mode '\\' →
    Rule o ⟨mode, depth, offset⟩ '\\' ⟨.afterBackslash, depth, []⟩
  | symbol {mode : Mode} {depth offset : Nat} {x : Char} : IsPlain mode x →
    ¬(x = ')' ∧ 0 < depth) → ¬(x = '(' ∧ o.Opens depth) → x ∉ ['[', '{', '\\'] →
    Rule o ⟨mode, depth, offset⟩ x
      ⟨.normal, depth, [⟨.ofSymbol x, String.singleton x, offset⟩]⟩
  | mark {depth offset : Nat} :
    Rule o ⟨.afterOpen, depth, offset⟩ '?' ⟨.afterMark, depth, []⟩
  | lookahead {depth offset : Nat} :
    Rule o ⟨.afterMark, depth, offset⟩ '=' ⟨.normal, depth, [⟨.lookahead, "(?=", offset⟩]⟩
  | negLookahead {depth offset : Nat} :
    Rule o ⟨.afterMark, depth, offset⟩ '!' ⟨.normal, depth, [⟨.negLookahead, "(?!)", offset⟩]⟩
  | member {depth offset : Nat} {x : Char} : x ≠ ']' →
    Rule o ⟨.inClass, depth, offset⟩ x ⟨.inClass, depth, [⟨.char, String.singleton x, offset⟩]⟩
  | classEnd {depth offset : Nat} :
    Rule o ⟨.inClass, depth, offset⟩ ']' ⟨.normal, depth, [⟨.rangeClose, "]", offset⟩]⟩
  | bodyChar {body : List Char} {depth offset : Nat} {x : Char} : x ≠ '}' →
    Rule o ⟨.inQuantifier body, depth, offset⟩ x ⟨.inQuantifier (body ++ [x]), depth, []⟩
  | quantifierEnd {body : List Char} {depth offset : Nat} :
    Rule o ⟨.inQuantifier body, depth, offset⟩ '}'
      ⟨.normal, depth, [step.quantifier body offset]⟩
  /-- The character behind a backslash, where no code follows it. -/
  | escaped {depth offset : Nat} {x : Char} : (Kind.ofEscaped x).codeWidth = 0 →
    Rule o ⟨.afterBackslash, depth, offset⟩ x ⟨.normal, depth, [step.escape x [] offset]⟩
  | marker {depth offset : Nat} {x : Char} : (Kind.ofEscaped x).codeWidth ≠ 0 →
    Rule o ⟨.afterBackslash, depth, offset⟩ x ⟨.inCode x offset [], depth, []⟩
  | codeChar {marker : Char} {place : Nat} {code : List Char} {depth offset : Nat} {x : Char} :
    code.length + 1 ≠ (Kind.ofEscaped marker).codeWidth →
    Rule o ⟨.inCode marker place code, depth, offset⟩ x
      ⟨.inCode marker place (code ++ [x]), depth, []⟩
  | codeEnd {marker : Char} {place : Nat} {code : List Char} {depth offset : Nat} {x : Char} :
    code.length + 1 = (Kind.ofEscaped marker).codeWidth →
    Rule o ⟨.inCode marker place code, depth, offset⟩ x
      ⟨.normal, depth, [step.escape marker (code ++ [x]) place]⟩

variable {o : Options} {mode : Mode} {depth offset : Nat} {x : Char}

/-- A character that is not about the opening of a group is read as anywhere
outside of all constructs. -/
theorem step_of_isPlain (h : IsPlain mode x) (o : Options) (depth offset : Nat) :
    (⟨mode, depth, offset⟩ : State).step o x = (⟨mode, depth, offset⟩ : State).normal o x := by
  cases mode with
  | normal => rfl
  | afterOpen => exact if_neg h
  | afterMark =>
    simp only [step]
    rw [if_neg h.1, if_neg h.2]
  | inClass => exact h.elim
  | inQuantifier body => exact h.elim
  | afterBackslash => exact h.elim
  | inCode marker place code => exact h.elim

theorem rule_normal (h : IsPlain mode x) (o : Options) (depth offset : Nat) :
    Rule o ⟨mode, depth, offset⟩ x ((⟨mode, depth, offset⟩ : State).normal o x) := by
  unfold normal
  dsimp only
  split
  · rename_i hopen
    obtain ⟨rfl, hopen⟩ := hopen
    exact .opens h hopen
  · rename_i hopen
    split
    · rename_i hclose
      obtain ⟨rfl, hdepth⟩ := hclose
      obtain ⟨outer, rfl⟩ := Nat.exists_eq_succ_of_ne_zero (Nat.ne_of_gt hdepth)
      exact .closes h
    · rename_i hclose
      split
      · rename_i hx
        subst hx
        exact .bracket h
      · rename_i hbracket
        split
        · rename_i hx
          subst hx
          exact .brace h
        · rename_i hbrace
          split
          · rename_i hx
            subst hx
            exact .backslash h
          · rename_i hbackslash
            exact .symbol h hclose hopen (by simp [hbracket, hbrace, hbackslash])

/-- Each step is one of the rules. -/
theorem rule_step (o : Options) (s : State) (x : Char) : Rule o s x (s.step o x) := by
  obtain ⟨mode, depth, offset⟩ := s
  by_cases hplain : IsPlain mode x
  · rw [step_of_isPlain hplain]
    exact rule_normal hplain o depth offset
  · cases mode with
    | normal => exact absurd trivial hplain
    | afterOpen =>
      have hx : x = '?' := Decidable.not_not.1 hplain
      subst hx
      exact .mark
    | afterMark =>
      by_cases hx : x = '='
      · subst hx
        exact .lookahead
      · have hx' : x = '!' := Decidable.not_not.1 fun h => hplain ⟨hx, h⟩
        subst hx'
        exact .negLookahead
    | inClass =>
      simp only [step]
      split
      · rename_i hx
        subst hx
        exact .classEnd
      · rename_i hx
        exact .member hx
    | inQuantifier body =>
      simp only [step]
      split
      · rename_i hx
        subst hx
        exact .quantifierEnd
      · rename_i hx
        exact .bodyChar hx
    | afterBackslash =>
      simp only [step]
      split
      · rename_i hw
        exact .escaped hw
      · rename_i hw
        exact .marker hw
    | inCode marker place code =>
      simp only [step]
      split
      · rename_i hw
        exact .codeEnd hw
      · rename_i hw
        exact .codeChar hw

/-- Each rule is a step. -/
theorem Rule.step_eq {s : State} {t : Step} (h : Rule o s x t) : s.step o x = t := by
  cases h with
  | opens hm hopen =>
    rw [step_of_isPlain hm]
    exact if_pos ⟨rfl, hopen⟩
  | closes hm =>
    rw [step_of_isPlain hm]
    simp [normal]
  | bracket hm =>
    rw [step_of_isPlain hm]
    simp [normal]
  | brace hm =>
    rw [step_of_isPlain hm]
    simp [normal]
  | backslash hm =>
    rw [step_of_isPlain hm]
    simp [normal]
  | symbol hm hclose hopen hx =>
    simp only [List.mem_cons, List.not_mem_nil, or_false, not_or] at hx
    obtain ⟨hbracket, hbrace, hbackslash⟩ := hx
    rw [Options.Opens] at hopen
    rw [step_of_isPlain hm]
    simp only [normal, if_neg hopen, if_neg hclose, if_neg hbracket, if_neg hbrace,
      if_neg hbackslash]
  | mark => rfl
  | lookahead => rfl
  | negLookahead => rfl
  | member hx => exact if_neg hx
  | classEnd => rfl
  | bodyChar hx => exact if_neg hx
  | quantifierEnd => rfl
  | escaped hw => exact if_pos hw
  | marker hw => exact if_neg hw
  | codeChar hw => exact if_neg hw
  | codeEnd hw => exact if_pos hw

end RegexTokens.Stream.State
