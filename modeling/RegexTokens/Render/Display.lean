/-
RegexTokens.Render.Display — how tokens are shown.

A token by itself is shown on one line, with its text in quotes. Tokens are
shown as lines, each with a token's position, kind and text divided by tabs,
or as a JSON document. In a line the text is written as it is, so a text that
holds a line feed takes more than one line.
-/
import RegexTokens.Json
import RegexTokens.Text.Quoted
import RegexTokens.Token

namespace RegexTokens

/-! ## §1 One token -/

/-- The token as its kind, its text in quotes and its position. -/
def Token.display (t : Token) : String :=
  t.kind.name ++ "(" ++ Text.quoted t.text ++ ")@" ++ t.position.repr

/-! ## §2 Lines -/

/-- The line of a token. -/
def Token.line (t : Token) : String :=
  t.position.repr ++ "\t" ++ t.kind.name ++ "\t" ++ t.text ++ "\n"

/-- The lines of all tokens, in order. -/
def renderLines (tokens : List Token) : String := String.join (tokens.map Token.line)

@[simp] theorem renderLines_nil : renderLines [] = "" := by simp [renderLines]

@[simp] theorem renderLines_cons (t : Token) (ts : List Token) :
    renderLines (t :: ts) = t.line ++ renderLines ts := by simp [renderLines]

/-! ## §3 Documents -/

/-- A token as an object of its kind's name, its text and its position. -/
def Token.toJson (t : Token) : Json :=
  .object [("kind", .string t.kind.name), ("text", .string t.text), ("position", .number t.position)]

/-- The text of the array of all tokens, in order. -/
def renderJson (tokens : List Token) : String := (Json.array (tokens.map Token.toJson)).pretty

end RegexTokens
