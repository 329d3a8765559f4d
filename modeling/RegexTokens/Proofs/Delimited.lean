/-
RegexTokens.Proofs.Delimited — texts that end where they can be seen to end.

If all characters of a text are of one sort and the character behind it is
not, whoever reads the text knows where it ends: two such texts, each with
what follows it, are the same only if the texts are the same and what follows
is too. Fields end before a separator in this way, and numerals before
anything that is not a digit.
-/
import RegexTokens.Token

namespace RegexTokens

/-! ## §1 Cutting at the end of a sort of characters -/

/-- What follows a text does not go on with characters of a sort. -/
def StopsAt (P : Char → Prop) (rest : List Char) : Prop := ∀ x ∈ rest.head?, ¬P x

theorem stopsAt_nil (P : Char → Prop) : StopsAt P [] := by
  intro x hx
  simp at hx

theorem stopsAt_cons {P : Char → Prop} {x : Char} (h : ¬P x) (xs : List Char) :
    StopsAt P (x :: xs) := by
  intro y hy
  rw [List.head?_cons, Option.mem_some_iff] at hy
  exact hy ▸ h

theorem StopsAt.mono {P Q : Char → Prop} {rest : List Char} (h : StopsAt P rest)
    (hsort : ∀ x, Q x → P x) : StopsAt Q rest :=
  fun x hx hq => h x hx (hsort x hq)

/-- Two texts of one sort of characters are the same if they are with what
follows them. -/
theorem append_inj_of_stopsAt {P : Char → Prop} {a b c d : List Char} (ha : ∀ x ∈ a, P x)
    (hb : ∀ x ∈ b, P x) (hc : StopsAt P c) (hd : StopsAt P d) (h : a ++ c = b ++ d) :
    a = b ∧ c = d := by
  induction a generalizing b with
  | nil =>
    cases b with
    | nil => exact ⟨rfl, h⟩
    | cons y b =>
      -- what follows the empty text would go on as the other text does
      have hy : y ∈ c.head? := by
        rw [List.nil_append] at h
        simp [h]
      exact absurd (hb y List.mem_cons_self) (hc y hy)
  | cons x a ih =>
    cases b with
    | nil =>
      have hx : x ∈ d.head? := by
        rw [List.nil_append] at h
        simp [← h]
      exact absurd (ha x List.mem_cons_self) (hd x hx)
    | cons y b =>
      rw [List.cons_append, List.cons_append, List.cons.injEq] at h
      obtain ⟨rfl, h⟩ := h
      have ha' : ∀ z ∈ a, P z := fun z hz => ha z (List.mem_cons_of_mem _ hz)
      have hb' : ∀ z ∈ b, P z := fun z hz => hb z (List.mem_cons_of_mem _ hz)
      obtain ⟨rfl, hrest⟩ := ih ha' hb' h
      exact ⟨rfl, hrest⟩

/-- A text without a separator ends before the first separator. -/
theorem append_cons_inj {x : Char} {a b c d : List Char} (ha : x ∉ a) (hb : x ∉ b)
    (h : a ++ x :: c = b ++ x :: d) : a = b ∧ c = d := by
  have hstop : ∀ rest, StopsAt (· ≠ x) (x :: rest) := fun rest => stopsAt_cons (by simp) rest
  have ha' : ∀ y ∈ a, y ≠ x := fun y hy hyx => ha (hyx ▸ hy)
  have hb' : ∀ y ∈ b, y ≠ x := fun y hy hyx => hb (hyx ▸ hy)
  obtain ⟨rfl, hrest⟩ := append_inj_of_stopsAt ha' hb' (hstop c) (hstop d) h
  rw [List.cons.injEq] at hrest
  exact ⟨rfl, hrest.2⟩

/-! ## §2 Numerals and names -/

theorem isDigit_of_mem_toDigits {n : Nat} {x : Char} (h : x ∈ Nat.toDigits 10 n) :
    x.isDigit = true :=
  Nat.isDigit_of_mem_toDigits (by decide) (by decide) h

theorem not_mem_toDigits {x : Char} (hx : x.isDigit = false) (n : Nat) :
    x ∉ Nat.toDigits 10 n := by
  intro h
  rw [isDigit_of_mem_toDigits h] at hx
  exact absurd hx (by simp)

/-- A numeral is made of the digits of numbers below its base. -/
theorem exists_digitChar_of_mem_toDigits {b n : Nat} {x : Char} (hb : 1 < b)
    (h : x ∈ Nat.toDigits b n) : ∃ d < b, x = d.digitChar := by
  induction n using Nat.strongRecOn with
  | ind n ih =>
    rcases Nat.lt_or_ge n b with hn | hn
    · rw [Nat.toDigits_of_lt_base hn] at h
      exact ⟨n, hn, List.mem_singleton.1 h⟩
    · rw [Nat.toDigits_of_base_le hb hn] at h
      rcases List.mem_append.1 h with h | h
      · exact ih (n / b) (Nat.div_lt_self (by omega) hb) h
      · exact ⟨n % b, Nat.mod_lt n (by omega), List.mem_singleton.1 h⟩

theorem digitChar_inj : ∀ d < 16, ∀ e < 16, d.digitChar = e.digitChar → d = e := by decide

theorem singleton_ne_toDigits_append (b n : Nat) (x y : Char) :
    [x] ≠ Nat.toDigits b n ++ [y] := by
  intro h
  have hlength := congrArg List.length h
  simp at hlength

/-- Numerals are of the same number if they have the same digits: the last
digit is the remainder, and the others are the numeral of the quotient. -/
theorem toDigits_inj {b m n : Nat} (hb : 1 < b) (hb' : b ≤ 16)
    (h : Nat.toDigits b m = Nat.toDigits b n) : m = n := by
  induction m using Nat.strongRecOn generalizing n with
  | ind m ih =>
    rcases Nat.lt_or_ge m b with hm | hm
    · rcases Nat.lt_or_ge n b with hn | hn
      · rw [Nat.toDigits_of_lt_base hm, Nat.toDigits_of_lt_base hn] at h
        exact digitChar_inj m (by omega) n (by omega) (List.singleton_inj.1 h)
      · rw [Nat.toDigits_of_lt_base hm, Nat.toDigits_of_base_le hb hn] at h
        exact absurd h (singleton_ne_toDigits_append _ _ _ _)
    · rcases Nat.lt_or_ge n b with hn | hn
      · rw [Nat.toDigits_of_lt_base hn, Nat.toDigits_of_base_le hb hm] at h
        exact absurd h.symm (singleton_ne_toDigits_append _ _ _ _)
      · rw [Nat.toDigits_of_base_le hb hm, Nat.toDigits_of_base_le hb hn] at h
        obtain ⟨hquotient, hlast⟩ := List.append_inj' h rfl
        have hdiv : m / b = n / b := ih (m / b) (Nat.div_lt_self (by omega) hb) hquotient
        have hmod : m % b = n % b := by
          have hm' : m % b < b := Nat.mod_lt m (by omega)
          have hn' : n % b < b := Nat.mod_lt n (by omega)
          exact digitChar_inj _ (by omega) _ (by omega) (List.singleton_inj.1 hlast)
        rw [← Nat.div_add_mod m b, hdiv, hmod, Nat.div_add_mod]

/-- A name is made of letters. -/
theorem Kind.isAlpha_of_mem_name {k : Kind} {x : Char} (h : x ∈ k.name.toList) :
    x.isAlpha = true := by
  have hall : k.name.toList.all Char.isAlpha = true := by cases k <;> decide
  exact List.all_eq_true.1 hall x h

theorem Kind.not_mem_name {x : Char} (hx : x.isAlpha = false) (k : Kind) :
    x ∉ k.name.toList := by
  intro h
  rw [isAlpha_of_mem_name h] at hx
  exact absurd hx (by simp)

end RegexTokens
