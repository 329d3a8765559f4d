/-
RegexTokens.TokenTrace — the events of a scan, read off its tokens.

Each token tells by its kind, text and position what was reported when it was
scanned, so nothing is lost if only the tokens are kept.
-/
import RegexTokens.Event
import RegexTokens.Symbol
import RegexTokens.Token

namespace RegexTokens

/-- The events that go with a token. -/
def Token.events (t : Token) : List Event :=
  match t.kind with
  | .groupOpen => [.entered .group t.position]
  | .rangeOpen => [.entered .charClass t.position]
  | .quantifier => [.entered .quantifier (t.position - (t.text.length - 1))]
  | .escape => .entered .escape (t.position - 1) :: if t.text = "\\" then [.pastEnd t.position] else []
  | .unicodeEscape | .hexEscape =>
    .entered .escape (t.position - 1) ::
      if t.text.length < t.kind.codeWidth + 2 then
        [.shortWindow (t.position + 1) t.kind.codeWidth] else []
  | .backreference => [.entered .escape (t.position - 1)]
  | .groupClose | .rangeClose => if t.text = "" then [.pastEnd t.position] else []
  | .char | .metaChar | .pipe | .anchor | .lookahead | .negLookahead => []

end RegexTokens
