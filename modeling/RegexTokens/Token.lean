/-
RegexTokens.Token — a lexical unit of a pattern: its kind, its text and the
position it is recorded at.

A position counts characters from the start of the pattern. It is where the
scan stood when the token's kind was settled, which is not always where the
token's text starts: after the backslash of an escape, at the closing brace
of a quantifier.
-/
import RegexTokens.Kind

namespace RegexTokens

/-- A lexical unit of a pattern. -/
structure Token where
  kind : Kind
  text : String
  position : Nat
  deriving DecidableEq, Repr, Inhabited

namespace Token

/-- The token is of one of the given kinds. -/
def isOneOf (t : Token) (kinds : List Kind) : Bool := kinds.contains t.kind

/-- The kinds of token that start with a backslash. -/
def escapeKinds : List Kind := [.escape, .unicodeEscape, .hexEscape, .backreference]

/-- The token is an escape of any kind. -/
def isEscape (t : Token) : Bool := t.isOneOf escapeKinds

/-- The token as it reads when `n` more characters stand before it. -/
def shift (n : Nat) (t : Token) : Token := { t with position := t.position + n }

theorem isOneOf_iff {t : Token} {kinds : List Kind} : t.isOneOf kinds = true ↔ t.kind ∈ kinds := by
  simp [isOneOf]

@[simp] theorem kind_shift (n : Nat) (t : Token) : (t.shift n).kind = t.kind := rfl

@[simp] theorem text_shift (n : Nat) (t : Token) : (t.shift n).text = t.text := rfl

@[simp] theorem position_shift (n : Nat) (t : Token) :
    (t.shift n).position = t.position + n := rfl

@[simp] theorem shift_zero (t : Token) : t.shift 0 = t := rfl

theorem shift_shift (m n : Nat) (t : Token) : (t.shift m).shift n = t.shift (m + n) := by
  simp [shift, Nat.add_assoc]

end Token

end RegexTokens
