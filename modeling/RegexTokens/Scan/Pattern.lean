/-
RegexTokens.Scan.Pattern — the scan of whole patterns.

A pattern is a sequence of items: groups, classes, quantifiers, escapes and
single characters. At the top level a closing parenthesis is a character
like any other. Every pattern has a scan; there is nothing a scan refuses.
-/
import RegexTokens.Scan.Group

namespace RegexTokens

namespace Scan

/-! ## §1 Items -/

/-- The scan of what starts with `x`, outside of any group. -/
def item (o : Options) (x : Char) (c : Cursor) : Scan :=
  if x = '(' then group o c else plain x c

theorem width_group_pos (o : Options) (c : Cursor) : 0 < (group o c).width := by
  have := width_opening_pos c
  simp only [group, width_append]
  omega

theorem width_item_pos (o : Options) (x : Char) (c : Cursor) : 0 < (item o x c).width := by
  simp only [item]
  split
  · exact width_group_pos o c
  · exact width_plain_pos x c

/-- The scan of all items from a cursor to the end of the pattern. -/
def items (o : Options) (c : Cursor) : Scan :=
  match _h : c.rest with
  | [] => .empty
  | x :: _ =>
    let head := item o x c
    head ++ items o (c.advance head.width)
termination_by c.rest.length
decreasing_by
  exact Cursor.length_rest_advance_lt (by simp [_h]) (width_item_pos o x c)

theorem items_nil (o : Options) {c : Cursor} (h : c.rest = []) : items o c = .empty := by
  rw [items]
  split <;> simp_all

theorem items_cons (o : Options) {c : Cursor} {x : Char} {tail : List Char}
    (h : c.rest = x :: tail) :
    items o c = item o x c ++ items o (c.advance (item o x c).width) := by
  rw [items]
  split <;> simp_all

end Scan

/-! ## §2 Patterns -/

/-- The scan of a pattern. -/
def scan (pattern : String) (o : Options := {}) : Scan :=
  .items o (.start pattern.toList)

/-- The tokens of a pattern, in order. -/
def tokenize (pattern : String) (o : Options := {}) : List Token :=
  (scan pattern o).tokens

/-- The events of tokenizing a pattern, in order; the last is its summary. -/
def trace (pattern : String) (o : Options := {}) : List Event :=
  let s := scan pattern o
  s.events ++ [.finished pattern.length s.tokens.length]

end RegexTokens
