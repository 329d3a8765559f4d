/-
RegexTokens.Scan.Cursor — a place in a pattern.

A cursor only moves forward. It may move past the end of the pattern, where
nothing is left to read but the offset keeps growing: a construct that is
never closed still takes up the position its closing character would have.
-/
namespace RegexTokens

/-- A place in a pattern: the number of characters before it, and the
characters from there on. -/
structure Cursor where
  offset : Nat
  rest : List Char
  deriving DecidableEq, Repr, Inhabited

namespace Cursor

/-- The place `offset` characters into a pattern, which may lie past its end. -/
def ofOffset (pattern : List Char) (offset : Nat) : Cursor := ⟨offset, pattern.drop offset⟩

/-- The start of a pattern. -/
def start (pattern : List Char) : Cursor := ⟨0, pattern⟩

/-- The place `n` characters further on. -/
def advance (c : Cursor) (n : Nat) : Cursor := ⟨c.offset + n, c.rest.drop n⟩

@[simp] theorem offset_advance (c : Cursor) (n : Nat) :
    (c.advance n).offset = c.offset + n := rfl

@[simp] theorem rest_advance (c : Cursor) (n : Nat) : (c.advance n).rest = c.rest.drop n := rfl

@[simp] theorem advance_zero (c : Cursor) : c.advance 0 = c := rfl

theorem advance_advance (c : Cursor) (m n : Nat) :
    (c.advance m).advance n = c.advance (m + n) := by
  simp [advance, Nat.add_assoc]

@[simp] theorem ofOffset_zero (pattern : List Char) : ofOffset pattern 0 = start pattern := rfl

theorem advance_start (pattern : List Char) (n : Nat) :
    (start pattern).advance n = ofOffset pattern n := by
  simp [start, advance, ofOffset]

theorem advance_ofOffset (pattern : List Char) (m n : Nat) :
    (ofOffset pattern m).advance n = ofOffset pattern (m + n) := by
  simp [advance, ofOffset]

/-- Moving on from a character leaves less to read. -/
theorem length_rest_advance_lt {c : Cursor} {n : Nat} (hc : c.rest ≠ []) (hn : 0 < n) :
    (c.advance n).rest.length < c.rest.length := by
  have := List.length_pos_iff.2 hc
  simp only [rest_advance, List.length_drop]
  omega

end Cursor

end RegexTokens
