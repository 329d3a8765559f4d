/-
RegexTokens.Proofs.QuotedTheorems — quoted text can be read back, and so can a
token that is displayed with it.

A character is written between quotes in one of three ways (`Written`), and the
ways are told apart as they go: by the backslash, by the letter behind it, and
a code by the brace at its end. So the writing of a character says where it
ends (`Written.append_inj`), a quote alone is the end of the text, and quoted
texts are the same only if the texts are, whatever comes behind them
(`quoted_append_inj`). The text may hold quotes, backslashes, or what looks
like a code: these are written as other characters are, each for itself.
-/
import RegexTokens.Proofs.Delimited
import RegexTokens.Render.Display

namespace RegexTokens

/-- A numeral does not leave its line. -/
theorem space_le_of_mem_toDigits {b n : Nat} {x : Char} (hb : 1 < b) (hb' : b ≤ 16)
    (h : x ∈ Nat.toDigits b n) : 0x20 ≤ x.toNat := by
  obtain ⟨digit, hlt, rfl⟩ := exists_digitChar_of_mem_toDigits hb h
  have hall : ∀ digit < 16, 0x20 ≤ digit.digitChar.toNat := by decide
  exact hall digit (by omega)

theorem Kind.space_le_of_mem_name {k : Kind} {x : Char} (h : x ∈ k.name.toList) :
    0x20 ≤ x.toNat := by
  have hall : k.name.toList.all (fun y => decide (0x20 ≤ y.toNat)) = true := by
    cases k <;> decide
  exact of_decide_eq_true (List.all_eq_true.1 hall x h)

namespace Text

/-! ## §1 Characters -/

/-- The letters of short escapes, each with the character it is written for. -/
def letters : List (Char × Char) :=
  [('0', '\x00'), ('t', '\t'), ('r', '\r'), ('n', '\n'), ('"', '"'), ('\\', '\\')]

theorem lookup_letters_of_shortEscape? {x letter : Char} (h : shortEscape? x = some letter) :
    letters.lookup letter = some x := by
  unfold shortEscape? at h
  repeat' split at h
  all_goals cases h
  all_goals
    subst x
    rfl

/-- The characters that a character is written by between quotes. -/
inductive Written (x : Char) : List Char → Prop
  | letter {letter : Char} : letters.lookup letter = some x → Written x ['\\', letter]
  | code : Written x ('\\' :: 'u' :: '{' :: (Nat.toDigits 16 x.toNat ++ ['}']))
  | raw : x ≠ '"' → x ≠ '\\' → isPrintable x = true → Written x [x]

theorem written_quoteChar (x : Char) : Written x (quoteChar x) := by
  unfold quoteChar
  split
  · rename_i letter hletter
    exact .letter (lookup_letters_of_shortEscape? hletter)
  · rename_i hnone
    split
    · exact .code
    · rename_i hcode
      have hprints : isPrintable x = true := by
        rw [needsCode, Bool.or_eq_true, not_or] at hcode
        simpa using hcode.2
      refine .raw ?_ ?_ hprints
      · rintro rfl
        exact absurd hnone (by decide)
      · rintro rfl
        exact absurd hnone (by decide)

namespace Written

variable {x y : Char} {a b c d : List Char}

/-- What is written for a character does not start as the end of the text. -/
theorem append_ne_quote (h : Written x a) (c d : List Char) : a ++ c ≠ '"' :: d := by
  cases h with
  | letter hx => simp
  | code => simp
  | raw hquote hbackslash hprints => simp [hquote]

theorem not_mem_code (x : Char) : '}' ∉ Nat.toDigits 16 x.toNat := by
  intro h
  obtain ⟨digit, -, hdigit⟩ := exists_digitChar_of_mem_toDigits (by decide) h
  exact Nat.digitChar_ne '}' (by decide) hdigit.symm

/-- What is written for a character ends where it is seen to end. -/
theorem append_inj (hx : Written x a) (hy : Written y b) (h : a ++ c = b ++ d) :
    x = y ∧ c = d := by
  have hu : letters.lookup 'u' = none := by decide
  cases hx with
  | letter hx =>
    cases hy with
    | letter hy =>
      simp only [List.cons_append, List.nil_append, List.cons.injEq, true_and] at h
      obtain ⟨rfl, rfl⟩ := h
      exact ⟨Option.some.inj (hx.symm.trans hy), rfl⟩
    | code =>
      simp only [List.cons_append, List.nil_append, List.cons.injEq, true_and] at h
      rw [h.1, hu] at hx
      exact absurd hx.symm (Option.some_ne_none x)
    | raw hquote hbackslash hprints =>
      exact absurd (List.cons.inj h).1.symm hbackslash
  | code =>
    cases hy with
    | letter hy =>
      simp only [List.cons_append, List.nil_append, List.cons.injEq, true_and] at h
      rw [← h.1, hu] at hy
      exact absurd hy.symm (Option.some_ne_none y)
    | code =>
      simp only [List.cons_append, List.append_assoc, List.nil_append, List.cons.injEq,
        true_and] at h
      obtain ⟨hdigits, hrest⟩ := append_cons_inj (not_mem_code x) (not_mem_code y) h
      exact ⟨Char.toNat_inj.1 (toDigits_inj (by decide) (by decide) hdigits), hrest⟩
    | raw hquote hbackslash hprints =>
      exact absurd (List.cons.inj h).1.symm hbackslash
  | raw hquote hbackslash hprints =>
    cases hy with
    | letter hy => exact absurd (List.cons.inj h).1 hbackslash
    | code => exact absurd (List.cons.inj h).1 hbackslash
    | raw _ _ _ => exact List.cons.inj h

/-- Nothing is written that would leave the line. -/
theorem space_le (h : Written x a) : ∀ y ∈ a, 0x20 ≤ y.toNat := by
  cases h with
  | @letter letter hx =>
    obtain ⟨before, after, hletters, -⟩ := List.lookup_eq_some_iff.1 hx
    have hall : ∀ entry ∈ letters, 0x20 ≤ entry.1.toNat := by decide
    have hletter := hall (letter, x) (by simp [hletters])
    simpa using hletter
  | code =>
    have hdigits : ∀ y ∈ Nat.toDigits 16 x.toNat, 0x20 ≤ y.toNat :=
      fun y hy => space_le_of_mem_toDigits (by decide) (by decide) hy
    simpa [or_imp, forall_and] using hdigits
  | raw hquote hbackslash hprints =>
    have hspace : ¬x.toNat < 0x20 := by
      intro hlt
      rw [isPrintable_of_lt_space hlt] at hprints
      exact absurd hprints (by decide)
    simpa using hspace

end Written

/-! ## §2 Texts -/

theorem flatMap_quoteChar_append_inj {s t c d : List Char}
    (h : s.flatMap quoteChar ++ '"' :: c = t.flatMap quoteChar ++ '"' :: d) : s = t ∧ c = d := by
  induction s generalizing t with
  | nil =>
    cases t with
    | nil => exact ⟨rfl, (List.cons.inj h).2⟩
    | cons y t =>
      rw [List.flatMap_cons, List.append_assoc] at h
      exact absurd h.symm ((written_quoteChar y).append_ne_quote _ _)
  | cons x s ih =>
    cases t with
    | nil =>
      rw [List.flatMap_cons, List.append_assoc] at h
      exact absurd h ((written_quoteChar x).append_ne_quote _ _)
    | cons y t =>
      rw [List.flatMap_cons, List.flatMap_cons, List.append_assoc, List.append_assoc] at h
      obtain ⟨rfl, hchars⟩ := (written_quoteChar x).append_inj (written_quoteChar y) h
      obtain ⟨rfl, hrest⟩ := ih hchars
      exact ⟨rfl, hrest⟩

theorem toList_quoted_append (s : String) (c : List Char) :
    (quoted s).toList ++ c = '"' :: (s.toList.flatMap quoteChar ++ '"' :: c) := by
  simp [quoted]

/-- Quoted texts are told apart, whatever comes behind them. -/
theorem quoted_append_inj {s t : String} {c d : List Char}
    (h : (quoted s).toList ++ c = (quoted t).toList ++ d) : s = t ∧ c = d := by
  rw [toList_quoted_append, toList_quoted_append, List.cons.injEq] at h
  obtain ⟨hchars, hrest⟩ := flatMap_quoteChar_append_inj h.2
  exact ⟨String.toList_inj.1 hchars, hrest⟩

theorem quoted_inj {s t : String} (h : quoted s = quoted t) : s = t := by
  have hlist : (quoted s).toList ++ [] = (quoted t).toList ++ [] := by rw [h]
  exact (quoted_append_inj hlist).1

theorem space_le_of_mem_quoted {s : String} {x : Char} (h : x ∈ (quoted s).toList) :
    0x20 ≤ x.toNat := by
  rw [quoted, String.toList_ofList, List.cons_append, List.mem_cons, List.mem_append,
    List.mem_flatMap, List.mem_singleton] at h
  rcases h with rfl | ⟨y, -, hx⟩ | rfl
  · decide
  · exact (written_quoteChar y).space_le x hx
  · decide

end Text

/-! ## §3 Tokens -/

namespace Token

theorem toList_display (t : Token) :
    t.display.toList = t.kind.name.toList ++ '(' :: ((Text.quoted t.text).toList ++
      ')' :: '@' :: Nat.toDigits 10 t.position) := by
  simp [display]

/-- The name ends at the parenthesis, the text where its quotes end, and the
rest is the position. -/
theorem display_inj {t u : Token} (h : t.display = u.display) : t = u := by
  have hlist := congrArg String.toList h
  rw [toList_display, toList_display] at hlist
  obtain ⟨hname, hlist⟩ := append_cons_inj (Kind.not_mem_name (by decide) _)
    (Kind.not_mem_name (by decide) _) hlist
  obtain ⟨htext, hlist⟩ := Text.quoted_append_inj hlist
  simp only [List.cons.injEq, true_and] at hlist
  have hkind : t.kind = u.kind := Kind.name_injective (String.toList_inj.1 hname)
  have hposition : t.position = u.position := toDigits_inj (by decide) (by decide) hlist
  obtain ⟨kind, text, position⟩ := t
  obtain ⟨kind', text', position'⟩ := u
  rw [Token.mk.injEq]
  exact ⟨hkind, htext, hposition⟩

theorem space_le_of_mem_display {t : Token} {x : Char} (h : x ∈ t.display.toList) :
    0x20 ≤ x.toNat := by
  simp only [toList_display, List.mem_append, List.mem_cons] at h
  rcases h with h | rfl | h | rfl | rfl | h
  · exact Kind.space_le_of_mem_name h
  · decide
  · exact Text.space_le_of_mem_quoted h
  · decide
  · decide
  · exact space_le_of_mem_toDigits (by decide) (by decide) h

end Token

/-- Tokens are displayed alike exactly if they are the same, whatever text they
hold, and no control character stands in what is displayed. -/
theorem display_tells_token (t u : Token) :
    (t.display = u.display ↔ t = u) ∧ ∀ x ∈ t.display.toList, 0x20 ≤ x.toNat := by
  constructor
  · constructor
    · exact Token.display_inj
    · intro h
      rw [h]
  · intro x hx
    exact Token.space_le_of_mem_display hx

end RegexTokens
