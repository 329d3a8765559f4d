/-
RegexTokens.Symbol — what a single character means on its own.

Six characters are tokens by themselves with a meaning: `^` and `$`, which
anchor, and `*`, `+`, `?` and `.`, the meta characters. `|` separates
alternatives. A character that opens no construct and is none of these
stands for itself.

`Kind.ofEscaped` reads the character after a backslash instead.
-/
import RegexTokens.Kind

namespace RegexTokens

/-- The anchors. -/
def anchors : List Char := ['^', '$']

/-- The meta characters. -/
def metaChars : List Char := ['*', '+', '?', '.']

/-- The character is an anchor. -/
def isAnchor (x : Char) : Bool := anchors.contains x

/-- The character is a meta character. -/
def isMetaChar (x : Char) : Bool := metaChars.contains x

theorem isAnchor_iff {x : Char} : isAnchor x = true ↔ x = '^' ∨ x = '$' := by
  simp [isAnchor, anchors]

theorem isMetaChar_iff {x : Char} :
    isMetaChar x = true ↔ x = '*' ∨ x = '+' ∨ x = '?' ∨ x = '.' := by
  simp [isMetaChar, metaChars]

/-- The kind of a character that is a token by itself. -/
def Kind.ofSymbol (x : Char) : Kind :=
  if isAnchor x then .anchor
  else if isMetaChar x then .metaChar
  else if x = '|' then .pipe
  else .char

/-- The kind of an escape, by the character after its backslash. Only the
ASCII digits make a backreference. -/
def Kind.ofEscaped (x : Char) : Kind :=
  if x = 'u' then .unicodeEscape
  else if x = 'x' then .hexEscape
  else if x.isDigit then .backreference
  else .escape

theorem Kind.ofSymbol_mem (x : Char) :
    Kind.ofSymbol x ∈ [.char, .metaChar, .pipe, .anchor] := by
  unfold Kind.ofSymbol
  split
  · decide
  · split
    · decide
    · split <;> decide

@[simp] theorem Kind.ofSymbol_ne {k : Kind} (h : k ∉ [.char, .metaChar, .pipe, .anchor])
    (x : Char) : Kind.ofSymbol x ≠ k :=
  fun he => h (he ▸ ofSymbol_mem x)

theorem Kind.ofEscaped_mem (x : Char) :
    Kind.ofEscaped x ∈ [.escape, .unicodeEscape, .hexEscape, .backreference] := by
  unfold Kind.ofEscaped
  split
  · decide
  · split
    · decide
    · split <;> decide

@[simp] theorem Kind.ofEscaped_ne {k : Kind}
    (h : k ∉ [.escape, .unicodeEscape, .hexEscape, .backreference]) (x : Char) :
    Kind.ofEscaped x ≠ k :=
  fun he => h (he ▸ ofEscaped_mem x)

/-- How many characters an escape of this kind takes after its marker: the
code written out in digits, four of them for `u` and two for `x`. -/
def Kind.codeWidth : Kind → Nat
  | .unicodeEscape => 4
  | .hexEscape => 2
  | _ => 0

end RegexTokens
