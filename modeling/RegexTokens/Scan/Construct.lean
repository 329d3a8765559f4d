/-
RegexTokens.Scan.Construct — the scans of single characters, character
classes, quantifiers and escapes.

Each of them starts at a cursor and takes up at least one position
(`width_*_pos`), so a scan that repeats them comes to an end. None of them
looks at the character that opens the construct: that the cursor is on it is
how they are chosen, and from any other place they scan as if it were.

A construct that is still open when the pattern ends is closed there, as far
past the end as its missing characters would have gone.
-/
import RegexTokens.Scan.Basic
import RegexTokens.Scan.Cursor
import RegexTokens.Symbol

namespace RegexTokens.Scan

/-! ## §1 Single characters -/

/-- A character that is a token by itself. -/
def symbol (x : Char) (c : Cursor) : Scan :=
  single (.ofSymbol x) (String.singleton x) c.offset

/-- The closing token of a group or a class: the character under the cursor,
and no text at all where the pattern has ended. -/
def closing (kind : Kind) (c : Cursor) : Scan :=
  match c.rest with
  | x :: _ => single kind (String.singleton x) c.offset
  | [] => { single kind "" c.offset with events := [.pastEnd c.offset] }

@[simp] theorem width_symbol (x : Char) (c : Cursor) : (symbol x c).width = 1 := rfl

@[simp] theorem width_closing (kind : Kind) (c : Cursor) : (closing kind c).width = 1 := by
  rw [closing]
  split <;> rfl

/-! ## §2 Character classes -/

/-- The members of a class, each a character that stands for itself, up to
the first closing bracket. A backslash, a dash and an opening bracket are
members like any other. -/
def members (c : Cursor) : Scan :=
  let chars := c.rest.takeWhile (· != ']')
  { tokens := (chars.zipIdx c.offset).map fun (x, i) => ⟨.char, String.singleton x, i⟩
    width := chars.length }

/-- A character class. -/
def charClass (c : Cursor) : Scan :=
  let bracket := single .rangeOpen "[" c.offset
  let body := members (c.advance 1)
  { bracket with events := [.entered .charClass c.offset] }
    ++ body ++ closing .rangeClose (c.advance (1 + body.width))

theorem width_charClass_pos (c : Cursor) : 0 < (charClass c).width := by
  simp only [charClass, width_append, width_closing]
  omega

/-! ## §3 Quantifiers -/

/-- A quantifier: one token that holds the braces and all between them. It is
recorded at its closing brace, which is written also where the pattern ends
without one. -/
def quantifier (c : Cursor) : Scan :=
  let body := (c.advance 1).rest.takeWhile (· != '}')
  { tokens := [⟨.quantifier, String.ofList ('{' :: body ++ ['}']), c.offset + 1 + body.length⟩]
    events := [.entered .quantifier c.offset]
    width := body.length + 2 }

theorem width_quantifier_pos (c : Cursor) : 0 < (quantifier c).width := by
  simp [quantifier]

/-! ## §4 Escapes -/

/-- An escape: the backslash, the character after it, and as many more as its
kind takes, whether they are digits or not. It is recorded after the
backslash. A code that the end of the pattern cuts short takes up its full
width all the same, and a backslash at the very end is an escape by itself. -/
def escape (c : Cursor) : Scan :=
  let place := c.offset + 1
  match (c.advance 1).rest with
  | [] =>
    { tokens := [⟨.escape, "\\", place⟩]
      events := [.entered .escape c.offset, .pastEnd place]
      width := 2 }
  | x :: after =>
    let kind := Kind.ofEscaped x
    let code := after.take kind.codeWidth
    { tokens := [⟨kind, String.ofList ('\\' :: x :: code), place⟩]
      events := .entered .escape c.offset ::
        if code.length < kind.codeWidth then [.shortWindow (place + 1) kind.codeWidth] else []
      width := kind.codeWidth + 2 }

theorem width_escape_pos (c : Cursor) : 0 < (escape c).width := by
  simp only [escape]
  split <;> simp

/-! ## §5 Choice by the first character -/

/-- The scan of what starts with `x`, where a parenthesis has no meaning. -/
def plain (x : Char) (c : Cursor) : Scan :=
  if x = '[' then charClass c
  else if x = '{' then quantifier c
  else if x = '\\' then escape c
  else symbol x c

theorem width_plain_pos (x : Char) (c : Cursor) : 0 < (plain x c).width := by
  simp only [plain]
  split
  · exact width_charClass_pos c
  · split
    · exact width_quantifier_pos c
    · split
      · exact width_escape_pos c
      · simp

end RegexTokens.Scan
