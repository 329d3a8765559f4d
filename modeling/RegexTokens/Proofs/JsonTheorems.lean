/-
RegexTokens.Proofs.JsonTheorems — the JSON text of tokens is a JSON document
of these tokens.

The text of every document of strings, natural numbers, arrays and objects is
read by the grammar as what the document stands for, part by part as it is
laid out (`reads_layout`). The white space of the layout stands before each
part, and before the closing bracket behind the last one. As no text has two
values, that is all it can be read as, and what tokens are put into an array of
objects can be taken out of it again.
-/
import Mathlib.Data.List.Forall2
import RegexTokens.Fault
import RegexTokens.Proofs.JsonGrammarTheorems
import RegexTokens.Render.Display

namespace RegexTokens

namespace Json

/-! ## §1 Numbers and strings -/

/-- Only the numeral of zero starts with a zero. -/
theorem eq_zero_of_head_toDigits {n : Nat} (h : (Nat.toDigits 10 n).head? = some '0') : n = 0 := by
  induction n using Nat.strongRecOn with
  | ind n ih =>
    by_cases hn : n < 10
    · rw [Nat.toDigits_of_lt_base hn, List.head?_cons, Option.some.injEq] at h
      have hall : ∀ n < 10, Nat.digitChar n = '0' → n = 0 := by decide
      exact hall n hn h
    · rw [Nat.toDigits_of_base_le (by decide) (by omega), List.head?_append,
        List.head?_eq_some_head Nat.toDigits_ne_nil, Option.some_or,
        ← List.head?_eq_some_head] at h
      have := ih (n / 10) (by omega) h
      omega

/-- The numeral of a natural number. -/
def Numeral.ofNat (n : Nat) : Numeral where
  sign := none
  whole := ⟨Nat.toDigits 10 n, Nat.toDigits_ne_nil, fun _ => isDigit_of_mem_toDigits⟩
  fraction := none
  exponent := none
  sign_eq := by simp
  whole_eq h :=
    (congrArg (Nat.toDigits 10) (eq_zero_of_head_toDigits h)).trans (Nat.toDigits_zero 10)

theorem Numeral.text_ofNat (n : Nat) : (ofNat n).text = Nat.toDigits 10 n := by
  simp [ofNat, text, fractionText, exponentText]

theorem Numeral.toRat_ofNat (n : Nat) : (ofNat n).toRat = n := by
  have hdigits : Nat.ofDigitChars 10 (Nat.toDigits 10 n ++ []) 0 = n := by
    rw [List.append_nil, Nat.ofDigitChars_ten_toDigits]
  show ((Nat.ofDigitChars 10 (Nat.toDigits 10 n ++ []) 0 : Nat) : Rat) * 10 ^ (0 : Int) = n
  rw [hdigits, Rat.zpow_zero, Rat.mul_one]

theorem reads_toDigits (n : Nat) : Reads (Nat.toDigits 10 n) (.value (.number n)) := by
  have h := Reads.number (.ofNat n)
  rwa [Numeral.text_ofNat, Numeral.toRat_ofNat] at h

theorem lookup_escapes_of_shortEscape? {x letter : Char} (h : shortEscape? x = some letter) :
    escapes.lookup letter = some x := by
  unfold shortEscape? at h
  repeat' split at h
  all_goals cases h
  all_goals
    subst x
    rfl

theorem hexDigit?_digitChar {n : Nat} (h : n < 16) : hexDigit? (Nat.digitChar n) = some n := by
  have hall : ∀ n < 16, hexDigit? (Nat.digitChar n) = some n := by decide
  exact hall n h

theorem readsChar_stringChar (x : Char) : ReadsChar (stringChar x) x := by
  unfold stringChar
  cases hx : shortEscape? x with
  | some letter => exact .letter (lookup_escapes_of_shortEscape? hx)
  | none =>
    dsimp only
    split
    · rename_i hcontrol
      refine .code (.digits ?_)
      have hzero : hexDigit? '0' = some 0 := by decide
      rw [fourDigits?, hzero, hexDigit?_digitChar (by omega), hexDigit?_digitChar (by omega)]
      simp
      omega
    · rename_i hcontrol
      refine .raw (by omega) ?_ ?_ <;> rintro rfl <;> exact absurd hx (by decide)

theorem reads_stringText (text : String) : ReadsString (stringText text) text := by
  refine .quoted ?_
  induction text.toList with
  | nil => exact .nil
  | cons x xs ih => exact .cons (readsChar_stringChar x) ih

/-! ## §2 Layout -/

theorem isBlank_nil : IsBlank [] := by simp [IsBlank]

theorem isBlank_newline (depth : Nat) : IsBlank (newline depth) := by
  intro x hx
  rw [newline, List.mem_cons, List.mem_replicate] at hx
  rcases hx with rfl | ⟨-, rfl⟩ <;> decide

/-- A value on a line of its own. -/
theorem Reads.onLine {s after : List Char} {v : Value} (h : Reads s (.value v)) (depth : Nat)
    (hafter : IsBlank after) : Reads (newline depth ++ (s ++ after)) (.element v) :=
  .element (isBlank_newline depth) h hafter

/-- A member on a line of its own, with a space between its name and its value. -/
theorem Reads.memberOnLine {s after : List Char} {v : Value} (h : Reads s (.value v))
    (depth : Nat) (name : String) (hafter : IsBlank after) :
    Reads (newline depth ++ ((stringText name ++ [':', ' '] ++ s) ++ after))
      (.member (name, v)) := by
  have hspace : IsBlank [' '] := by
    intro x hx
    rw [List.mem_singleton.1 hx]
    decide
  have hmember := Reads.member (isBlank_newline depth) (reads_stringText name) isBlank_nil
    (.element hspace h hafter)
  simpa using hmember

/-- Parts with commas between them, each on a line of its own, and what stands behind the last
one. -/
def lines (depth : Nat) (parts : List (List Char)) (after : List Char) : List Char :=
  newline depth ++ ((',' :: newline depth).intercalate parts ++ after)

theorem lines_singleton (depth : Nat) (part after : List Char) :
    lines depth [part] after = newline depth ++ (part ++ after) := by
  rw [lines, List.intercalate_singleton]

theorem lines_cons_cons (depth : Nat) (part part' after : List Char) (parts : List (List Char)) :
    lines depth (part :: part' :: parts) after =
      (newline depth ++ (part ++ [])) ++ ',' :: lines depth (part' :: parts) after := by
  simp [lines, List.intercalate_cons_cons]

theorem bracketed_eq {left right : Char} {depth : Nat} {parts : List (List Char)}
    (h : parts ≠ []) :
    bracketed left right depth parts =
      left :: (lines (depth + 1) parts (newline depth) ++ [right]) := by
  rw [bracketed, if_neg (by simpa using h)]
  simp [lines]

mutual

/-- The text of a document is read as what it stands for. -/
theorem reads_layout (depth : Nat) : ∀ j : Json, Reads (j.layout depth) (.value j.toValue)
  | string text => .string (reads_stringText text)
  | number n => reads_toDigits n
  | array [] => .emptyArray isBlank_nil
  | array (item :: items) => by
    rw [layout, bracketed_eq (by simp [layoutItems]), toValue]
    exact .array (reads_lines_layoutItems depth (item :: items) (by simp))
  | object [] => .emptyObject isBlank_nil
  | object (m :: members) => by
    rw [layout, bracketed_eq (by simp [layoutMembers]), toValue]
    exact .object (reads_lines_layoutMembers depth (m :: members) (by simp))

theorem reads_lines_layoutItems (depth : Nat) : ∀ items : List Json, items ≠ [] →
    Reads (lines (depth + 1) (layoutItems (depth + 1) items) (newline depth))
      (.elements (itemValues items))
  | [], h => absurd rfl h
  | [item], _ => by
    rw [layoutItems, layoutItems, lines_singleton]
    exact .lastElement ((reads_layout (depth + 1) item).onLine _ (isBlank_newline depth))
  | item :: item' :: items, _ => by
    rw [layoutItems, layoutItems, lines_cons_cons, ← layoutItems]
    exact .elements ((reads_layout (depth + 1) item).onLine _ isBlank_nil)
      (reads_lines_layoutItems depth (item' :: items) (by simp))

theorem reads_lines_layoutMembers (depth : Nat) : ∀ members : List (String × Json), members ≠ [] →
    Reads (lines (depth + 1) (layoutMembers (depth + 1) members) (newline depth))
      (.members (memberValues members))
  | [], h => absurd rfl h
  | [(key, value)], _ => by
    rw [layoutMembers, layoutMembers, lines_singleton]
    exact .lastMember ((reads_layout (depth + 1) value).memberOnLine _ key (isBlank_newline depth))
  | (key, value) :: (key', value') :: members, _ => by
    rw [layoutMembers, layoutMembers, lines_cons_cons, ← layoutMembers]
    exact .members ((reads_layout (depth + 1) value).memberOnLine _ key isBlank_nil)
      (reads_lines_layoutMembers depth ((key', value') :: members) (by simp))

end

/-- The text of a document can be read as what it stands for, and as nothing else. -/
theorem isText_pretty_iff {j : Json} {v : Value} : IsText j.pretty v ↔ v = j.toValue := by
  have hread : IsText j.pretty j.toValue := by
    have h := Reads.element isBlank_nil (reads_layout 0 j) isBlank_nil
    simpa [IsText, pretty] using h
  constructor
  · exact fun h => h.unique hread
  · rintro rfl
    exact hread

end Json

/-! ## §3 Tokens -/

/-- The value is an object of a kind by its name, a text and a position, with no
other members, and they are those of the token. -/
def Token.IsHeldBy (t : Token) (v : Json.Value) : Prop :=
  ∃ name position,
    v = .object [("kind", .string name), ("text", .string t.text), ("position", .number position)] ∧
      Kind.parse name = .ok t.kind ∧ position = t.position

theorem Token.isHeldBy_toValue (t : Token) : t.IsHeldBy t.toJson.toValue :=
  ⟨t.kind.name, t.position, rfl, Kind.parse_eq_ok_iff.2 rfl, rfl⟩

/-- An object holds one token only. -/
theorem Token.IsHeldBy.unique {t u : Token} {v : Json.Value} (ht : t.IsHeldBy v)
    (hu : u.IsHeldBy v) : t = u := by
  obtain ⟨name, position, rfl, hkind, rfl⟩ := ht
  obtain ⟨name', position', hv, hkind', rfl⟩ := hu
  simp only [Json.Value.object.injEq, List.cons.injEq, Prod.mk.injEq, Json.Value.string.injEq,
    Json.Value.number.injEq, true_and, and_true] at hv
  obtain ⟨rfl, htext, hposition⟩ := hv
  have hkinds : t.kind = u.kind := Except.ok.inj (hkind.symm.trans hkind')
  have hpositions : t.position = u.position := Rat.natCast_inj.1 hposition
  cases t
  cases u
  rw [Token.mk.injEq]
  exact ⟨hkinds, htext, hpositions⟩

/-- The values of an array hold the tokens in order. -/
theorem forall₂_isHeldBy (ts : List Token) :
    List.Forall₂ Token.IsHeldBy ts (Json.itemValues (ts.map Token.toJson)) := by
  induction ts with
  | nil => exact .nil
  | cons t ts ih => exact .cons t.isHeldBy_toValue ih

theorem eq_of_forall₂_isHeldBy {ts us : List Token} {vs : List Json.Value}
    (ht : List.Forall₂ Token.IsHeldBy ts vs) (hu : List.Forall₂ Token.IsHeldBy us vs) :
    ts = us := by
  induction ht generalizing us with
  | nil =>
    cases hu
    rfl
  | cons h _ ih =>
    cases hu with
    | cons h' hu => rw [h.unique h', ih hu]

theorem isText_renderJson_iff {ts : List Token} {v : Json.Value} :
    Json.IsText (renderJson ts) v ↔ v = .array (Json.itemValues (ts.map Token.toJson)) :=
  Json.isText_pretty_iff

/-- The text of tokens is a document and has one value, an array of objects that hold the tokens
in order. So no other tokens have this text. -/
theorem renderJson_holds_tokens (ts : List Token) :
    ∃ vs, (∀ v, Json.IsText (renderJson ts) v ↔ v = .array vs) ∧
      List.Forall₂ Token.IsHeldBy ts vs ∧ ∀ us, renderJson us = renderJson ts → us = ts := by
  refine ⟨Json.itemValues (ts.map Token.toJson), fun v => isText_renderJson_iff,
    forall₂_isHeldBy ts, ?_⟩
  intro us h
  have harray := isText_renderJson_iff.1 (h ▸ isText_renderJson_iff.2 rfl)
  rw [Json.Value.array.injEq] at harray
  exact eq_of_forall₂_isHeldBy (forall₂_isHeldBy us) (harray ▸ forall₂_isHeldBy ts)

end RegexTokens
