/-
RegexTokens.Recovery — a pattern read back from its tokens.

What the tokens of a pattern do not say by their texts they say by their
positions: a question mark that a group opening passed over leaves a gap of
one position before the next token. Only whether the last brace of a
quantifier at the end was there cannot be told; `recover` takes it as there.
-/
import RegexTokens.Token

namespace RegexTokens

namespace Token

/-- The position of a token's first character. An escape is recorded after
its backslash, and a quantifier at its last character. -/
def start (t : Token) : Nat :=
  if t.isEscape then t.position - 1
  else if t.kind = .quantifier then t.position - (t.text.length - 1)
  else t.position

/-- The token says what the question mark of a group's opening means. -/
def isAssertion (t : Token) : Bool := t.isOneOf [.lookahead, .negLookahead]

/-- A token that follows a group's opening leaves room for a question mark
that is not its own. -/
def followsMark (opening next : Token) : Bool :=
  !next.isAssertion && next.start == opening.position + 2

/-- The characters of the pattern that a token stands for, where `next` is
the token after it. -/
def source (t : Token) (next : Option Token) : List Char :=
  match t.kind with
  | .lookahead => ['?', '=']
  | .negLookahead => ['?', '!']
  | .groupOpen => if next.any t.followsMark then t.text.toList ++ ['?'] else t.text.toList
  | _ => t.text.toList

end Token

/-- The pattern that tokens were read from. -/
def recover : List Token → List Char
  | [] => []
  | t :: ts => t.source ts.head? ++ recover ts

@[simp] theorem recover_nil : recover [] = [] := rfl

theorem recover_cons (t : Token) (ts : List Token) :
    recover (t :: ts) = t.source ts.head? ++ recover ts := rfl

end RegexTokens
