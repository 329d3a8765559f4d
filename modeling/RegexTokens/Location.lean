/-
RegexTokens.Location — where in a pattern its tokens are found.

The position of a token is the place of the character that settled its kind.
For each kind, `LocatedIn` says which characters of the pattern stand at that
place and around it, and what the token's text is in terms of them. Only a
token that the end of the pattern closed is recorded at the end or past it.
-/
import RegexTokens.Token

namespace RegexTokens

/-- The characters stand in a pattern from a place on. -/
def StandsAt (chars pattern : List Char) (place : Nat) : Prop := chars <+: pattern.drop place

namespace Token

/-- The character stands in the pattern at the token's position, and it is all
of the token's text. -/
def IsCharIn (pattern : List Char) (x : Char) (t : Token) : Prop :=
  pattern[t.position]? = some x ∧ t.text.toList = [x]

/-- The token closes what `x` closes: it is that character, or it has no text
and the pattern has ended before it. -/
def IsCloserIn (pattern : List Char) (x : Char) (t : Token) : Prop :=
  t.IsCharIn pattern x ∨ pattern.length ≤ t.position ∧ t.text = ""

/-- The token comes right behind the opening of a group, and says what the
question mark and the character at its position mean. -/
def IsAssertionIn (pattern : List Char) (x : Char) (before : Option Token) (t : Token) : Prop :=
  ∃ place, t.position = place + 2 ∧ StandsAt ['(', '?', x] pattern place ∧
    before = some ⟨.groupOpen, "(", place⟩

/-- The token is recorded right behind a backslash. -/
def BehindBackslashIn (pattern : List Char) (t : Token) : Prop :=
  ∃ place, t.position = place + 1 ∧ pattern[place]? = some '\\'

/-- The token is an escape that is recorded at its marker. Its text is the
backslash, the marker and the next `width` characters, or what there is of
them. -/
def IsEscapeIn (pattern : List Char) (marker : Char) (width : Nat) (t : Token) : Prop :=
  t.BehindBackslashIn pattern ∧ pattern[t.position]? = some marker ∧
    t.text.toList = '\\' :: marker :: (pattern.drop (t.position + 1)).take width

/-- The token is found in the pattern at its position, where `before` is the
token before it. -/
def LocatedIn (pattern : List Char) (before : Option Token) (t : Token) : Prop :=
  match t.kind with
  | .char => ∃ x, t.IsCharIn pattern x
  | .metaChar => ∃ x ∈ ['*', '+', '?', '.'], t.IsCharIn pattern x
  | .anchor => ∃ x ∈ ['^', '$'], t.IsCharIn pattern x
  | .pipe => t.IsCharIn pattern '|'
  | .groupOpen => t.IsCharIn pattern '('
  | .rangeOpen => t.IsCharIn pattern '['
  | .groupClose => t.IsCloserIn pattern ')'
  | .rangeClose => t.IsCloserIn pattern ']'
  | .lookahead => t.IsAssertionIn pattern '=' before ∧ t.text = "(?="
  | .negLookahead => t.IsAssertionIn pattern '!' before ∧ t.text = "(?!)"
  | .quantifier =>
    ∃ body place, t.position = place + 1 + body.length ∧ '}' ∉ body ∧
      t.text.toList = '{' :: body ++ ['}'] ∧ StandsAt ('{' :: body) pattern place ∧
      (pattern[t.position]? = some '}' ∨ t.position = pattern.length)
  | .escape =>
    (∃ x, x ≠ 'u' ∧ x ≠ 'x' ∧ x.isDigit = false ∧ t.IsEscapeIn pattern x 0) ∨
      t.BehindBackslashIn pattern ∧ t.position = pattern.length ∧ t.text = "\\"
  | .backreference => ∃ x, x.isDigit = true ∧ t.IsEscapeIn pattern x 0
  | .unicodeEscape => t.IsEscapeIn pattern 'u' 4
  | .hexEscape => t.IsEscapeIn pattern 'x' 2

end Token

end RegexTokens
