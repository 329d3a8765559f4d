/-
RegexTokens.Proofs.TextTheorems — when the texts of the tokens, one after the
other, are the pattern itself.

They are, but for two things: a question mark after the parenthesis of a
group, and the brace of a quantifier that is left open. `texts_eq_iff` says
so for what remains of a pattern, by induction on its derivation.

A lookahead differs from the pattern in its second character, whatever
follows. Where a mark is passed over, the texts that follow would have to
make up for it, and `Scans.texts_ne_mark` says that they never do: of the
remaining characters they could only ever have a question mark too much if
these start with one, and then the same is true of the next character.
-/
import RegexTokens.Proofs.RecoveryTheorems

namespace RegexTokens

/-! ## §1 Texts -/

/-- The texts of tokens, one after the other. -/
def texts (ts : List Token) : List Char := ts.flatMap fun t => t.text.toList

@[simp] theorem texts_nil : texts [] = [] := rfl

@[simp] theorem texts_cons (t : Token) (ts : List Token) :
    texts (t :: ts) = t.text.toList ++ texts ts := rfl

@[simp] theorem texts_append (ts us : List Token) : texts (ts ++ us) = texts ts ++ texts us := by
  simp [texts]

@[simp] theorem texts_memberTokens (chars : List Char) (offset : Nat) :
    texts (memberTokens chars offset) = chars := by
  induction chars generalizing offset with
  | nil => rfl
  | cons x chars ih =>
    rw [memberTokens_cons, texts_cons, ih]
    simp

theorem toList_join_text (ts : List Token) :
    (String.join (ts.map Token.text)).toList = texts ts := by
  rw [String.toList_join, List.flatMap_map]
  rfl

/-! ## §2 Question marks -/

/-- The tokens hold the opening of a group that a question mark follows in
the pattern. -/
def HoldsMarkedGroup (pattern : List Char) (ts : List Token) : Prop :=
  ∃ t ∈ ts, t.kind = .groupOpen ∧ pattern[t.position + 1]? = some '?'

@[simp] theorem not_holdsMarkedGroup_nil (pattern : List Char) :
    ¬HoldsMarkedGroup pattern [] := by
  simp [HoldsMarkedGroup]

@[simp] theorem holdsMarkedGroup_cons {pattern : List Char} {t : Token} {ts : List Token} :
    HoldsMarkedGroup pattern (t :: ts) ↔
      (t.kind = .groupOpen ∧ pattern[t.position + 1]? = some '?') ∨
        HoldsMarkedGroup pattern ts := by
  simp [HoldsMarkedGroup]

@[simp] theorem holdsMarkedGroup_append {pattern : List Char} {ts us : List Token} :
    HoldsMarkedGroup pattern (ts ++ us) ↔
      HoldsMarkedGroup pattern ts ∨ HoldsMarkedGroup pattern us := by
  simp [HoldsMarkedGroup, or_and_right, exists_or]

@[simp] theorem not_holdsMarkedGroup_memberTokens (pattern chars : List Char) (offset : Nat) :
    ¬HoldsMarkedGroup pattern (memberTokens chars offset) := by
  rintro ⟨t, ht, hk, -⟩
  rw [kind_of_mem_memberTokens ht] at hk
  exact absurd hk (by decide)

/-- The texts of what remains of a pattern never have a question mark that is
not there, in front of all the rest. -/
theorem Scans.texts_ne_mark {o : Options} {depth offset : Nat} {xs : List Char} {a : Scan}
    (h : Scans o depth offset xs a) : texts a.tokens ≠ '?' :: xs := by
  induction h with
  | done => simp
  | close hc _ ih =>
    rcases hc with rfl | ⟨rfl, rfl⟩
    · simp
    · simpa using ih
  | group _ _ _ _ => simp
  | mark _ _ _ _ _ => simp
  | lookahead _ _ _ => simp
  | negLookahead _ _ _ => simp
  | @symbol _ _ x xs a _ _ _ _ ih =>
    -- only a question mark has the text of one, and it leaves the next to be made up
    intro heq
    simp at heq
    obtain ⟨rfl, heq⟩ := heq
    exact ih heq
  | charClass _ _ _ _ => simp
  | quantifier _ _ _ _ => simp
  | escape _ _ _ => simp
  | backslash _ _ => simp

/-! ## §3 Texts and patterns -/

/-- The texts of what remains of a pattern are its characters, unless a group
is marked or a quantifier is left open. -/
theorem texts_eq_iff {o : Options} {depth offset : Nat} {pattern xs : List Char} {a : Scan}
    (h : Scans o depth offset xs a) (hp : pattern.drop offset = xs) :
    texts a.tokens = xs ↔
      ¬HoldsMarkedGroup pattern a.tokens ∧ ¬HoldsQuantifierAt pattern.length a.tokens := by
  induction h with
  | done => simp
  | close hc _ ih =>
    have := ih (drop_after_close hp hc)
    simp [this]
  | group hopen hx _ ih =>
    have := ih (drop_add_of_drop hp 1)
    simp [head?_of_drop hp, hx, this]
  | mark hopen he hn ha ih =>
    simp [head?_of_drop hp, ha.texts_ne_mark]
  | lookahead hopen _ ih => simp [head?_of_drop hp]
  | negLookahead hopen _ ih => simp [head?_of_drop hp]
  | symbol hclose hopen hx _ ih =>
    have := ih (drop_add_of_drop hp 1)
    simp [this]
  | charClass hb hc _ ih =>
    have := ih (drop_after_body hp hc)
    simp [this]
  | quantifier hb hc ha ih =>
    have := ih (drop_after_body hp hc)
    simp only [Scan.tokens_append, List.singleton_append, holdsQuantifierAt_quantifier hp hc]
    rcases hc with rfl | ⟨rfl, rfl⟩
    · simp [this]
    · simp
  | escape hc _ ih =>
    have := ih (drop_after_code hp hc)
    simp [this]
  | backslash _ ih =>
    have := ih (drop_add_of_drop hp 2)
    simp [this]

/-- The texts of the tokens of a pattern make up the pattern exactly if no
group in it is marked and no quantifier is left open. -/
theorem join_text_eq_iff (pattern : String) (o : Options) :
    String.join ((tokenize pattern o).map Token.text) = pattern ↔
      ¬HoldsMarkedGroup pattern.toList (tokenize pattern o) ∧ ¬EndsOpen pattern o := by
  rw [← String.toList_inj, toList_join_text, EndsOpen, ← String.length_toList]
  exact texts_eq_iff (scans_scan pattern o) List.drop_zero

end RegexTokens
