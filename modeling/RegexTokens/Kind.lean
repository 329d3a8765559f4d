/-
RegexTokens.Kind — the fifteen kinds a token of a regular expression can
have, and their names.

A kind is written by its name wherever tokens are shown, and read back by
that name alone: `ofName?_eq_some_iff` says that a text is accepted exactly
if it is the name of the kind it gives, so `name` is injective and no other
spelling is a kind.
-/
namespace RegexTokens

/-- What a token of a pattern is. -/
inductive Kind
  /-- A character that stands for itself. -/
  | char
  /-- One of the characters `*`, `+`, `?` and `.`. -/
  | metaChar
  | groupOpen
  | groupClose
  | rangeOpen
  | rangeClose
  /-- The bar between alternatives. -/
  | pipe
  /-- A repetition in braces. -/
  | quantifier
  /-- A backslash and the character after it. -/
  | escape
  /-- One of the characters `^` and `$`. -/
  | anchor
  | lookahead
  | negLookahead
  /-- A backslash, `u` and four characters. -/
  | unicodeEscape
  /-- A backslash, `x` and two characters. -/
  | hexEscape
  /-- A backslash and a digit. -/
  | backreference
  deriving DecidableEq, Repr, Inhabited

namespace Kind

/-- Every kind once, in the order in which lists of kinds are shown. -/
def all : List Kind :=
  [char, metaChar, groupOpen, groupClose, rangeOpen, rangeClose, pipe, quantifier, escape,
    anchor, lookahead, negLookahead, unicodeEscape, hexEscape, backreference]

theorem mem_all (k : Kind) : k ∈ all := by
  cases k <;> decide

theorem nodup_all : all.Nodup := by decide

/-- The place of a kind in `all`. -/
def index (k : Kind) : Nat := all.idxOf k

theorem getElem?_index (k : Kind) : all[k.index]? = some k := by
  cases k <;> decide

/-! ## §1 Names -/

/-- The name a kind is shown by. -/
def name : Kind → String
  | char => "Char"
  | metaChar => "MetaChar"
  | groupOpen => "GroupOpen"
  | groupClose => "GroupClose"
  | rangeOpen => "RangeOpen"
  | rangeClose => "RangeClose"
  | pipe => "Pipe"
  | quantifier => "Quantifier"
  | escape => "Escape"
  | anchor => "Anchor"
  | lookahead => "Lookahead"
  | negLookahead => "NegLookahead"
  | unicodeEscape => "UnicodeEscape"
  | hexEscape => "HexEscape"
  | backreference => "Backreference"

/-- The kinds by name. -/
def table : List (String × Kind) := all.map fun k => (k.name, k)

/-- The kind of a name, in its exact spelling. -/
def ofName? (s : String) : Option Kind := table.lookup s

theorem ofName?_name (k : Kind) : ofName? k.name = some k := by
  cases k <;> decide

theorem name_eq_of_ofName? {s : String} {k : Kind} (h : ofName? s = some k) : k.name = s := by
  obtain ⟨before, after, hl, -⟩ := List.lookup_eq_some_iff.1 h
  have hm : (s, k) ∈ table := by simp [hl]
  obtain ⟨l, -, he⟩ := List.mem_map.1 hm
  cases he
  rfl

theorem ofName?_eq_some_iff {s : String} {k : Kind} : ofName? s = some k ↔ s = k.name :=
  ⟨fun h => (name_eq_of_ofName? h).symm, fun h => h ▸ ofName?_name k⟩

theorem name_injective {j k : Kind} (h : j.name = k.name) : j = k :=
  Option.some.inj (by rw [← ofName?_name j, h, ofName?_name k])

end Kind

end RegexTokens
