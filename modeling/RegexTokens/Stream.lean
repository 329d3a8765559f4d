/-
RegexTokens.Stream — tokens of a pattern that arrives character by character.

A stream keeps what the characters so far leave open, the number of open
groups and the offset, and gives out a token as soon as its last character
has arrived. It needs no look ahead: a question mark after an opening
parenthesis is held back until the character after it says what it is.

At the end of the pattern `close` gives out what is still open: the token in
progress, with what there is of it, and an empty closing token for each open
group, at the positions where the closing characters would have stood.
-/
import RegexTokens.Scan.Basic
import RegexTokens.Symbol

namespace RegexTokens.Stream

/-- What the characters so far leave open. -/
inductive Mode
  | normal
  /-- After the parenthesis that opens a group. -/
  | afterOpen
  /-- After the question mark that follows such a parenthesis. -/
  | afterMark
  | inClass
  /-- In a quantifier, after its brace and `body`. -/
  | inQuantifier (body : List Char)
  | afterBackslash
  /-- In an escape with a code, after its `marker`, which is at `place`, and
  a part of its `code`. -/
  | inCode (marker : Char) (place : Nat) (code : List Char)
  deriving DecidableEq, Repr, Inhabited

/-- The state of a stream between two characters. -/
structure State where
  mode : Mode := .normal
  /-- The number of open groups. -/
  depth : Nat := 0
  /-- The number of characters so far. -/
  offset : Nat := 0
  deriving DecidableEq, Repr, Inhabited

/-- What a character leads to: the mode and depth after it, and the tokens
that it completes. -/
structure Step where
  mode : Mode
  depth : Nat
  tokens : List Token := []
  deriving DecidableEq, Repr

namespace State

/-! ## §1 One character -/

/-- The step of a character where no construct is open but groups. -/
def normal (o : Options) (s : State) (x : Char) : Step :=
  let emit (kind : Kind) : List Token := [⟨kind, String.singleton x, s.offset⟩]
  if x = '(' ∧ (s.depth = 0 ∨ o.nestedGroups) then ⟨.afterOpen, s.depth + 1, emit .groupOpen⟩
  else if x = ')' ∧ 0 < s.depth then ⟨.normal, s.depth - 1, emit .groupClose⟩
  else if x = '[' then ⟨.inClass, s.depth, emit .rangeOpen⟩
  else if x = '{' then ⟨.inQuantifier [], s.depth, []⟩
  else if x = '\\' then ⟨.afterBackslash, s.depth, []⟩
  else ⟨.normal, s.depth, emit (.ofSymbol x)⟩

/-- The step of a character. -/
def step (o : Options) (s : State) (x : Char) : Step :=
  let stay (mode : Mode) (tokens : List Token) : Step := ⟨mode, s.depth, tokens⟩
  match s.mode with
  | .normal => s.normal o x
  | .afterOpen => if x = '?' then stay .afterMark [] else s.normal o x
  | .afterMark =>
    if x = '=' then stay .normal [⟨.lookahead, "(?=", s.offset⟩]
    else if x = '!' then stay .normal [⟨.negLookahead, "(?!)", s.offset⟩]
    else s.normal o x
  | .inClass =>
    if x = ']' then stay .normal [⟨.rangeClose, "]", s.offset⟩]
    else stay .inClass [⟨.char, String.singleton x, s.offset⟩]
  | .inQuantifier body =>
    if x = '}' then stay .normal [quantifier body s.offset]
    else stay (.inQuantifier (body ++ [x])) []
  | .afterBackslash =>
    if (Kind.ofEscaped x).codeWidth = 0 then stay .normal [escape x [] s.offset]
    else stay (.inCode x s.offset []) []
  | .inCode marker place code =>
    if code.length + 1 = (Kind.ofEscaped marker).codeWidth then
      stay .normal [escape marker (code ++ [x]) place]
    else stay (.inCode marker place (code ++ [x])) []
where
  quantifier (body : List Char) (position : Nat) : Token :=
    ⟨.quantifier, String.ofList ('{' :: body ++ ['}']), position⟩
  escape (marker : Char) (code : List Char) (position : Nat) : Token :=
    ⟨.ofEscaped marker, String.ofList ('\\' :: marker :: code), position⟩

/-- The state after a character. -/
def after (o : Options) (s : State) (x : Char) : State where
  mode := (s.step o x).mode
  depth := (s.step o x).depth
  offset := s.offset + 1

/-! ## §2 The end of the pattern -/

/-- The token in progress at the end of the pattern, if there is one, and the
offset it leads to. -/
def closeMode (s : State) : List Token × Nat :=
  match s.mode with
  | .normal | .afterOpen | .afterMark => ([], s.offset)
  | .inClass => ([⟨.rangeClose, "", s.offset⟩], s.offset + 1)
  | .inQuantifier body => ([step.quantifier body s.offset], s.offset + 1)
  | .afterBackslash => ([⟨.escape, "\\", s.offset⟩], s.offset + 1)
  | .inCode marker place code =>
    ([step.escape marker code place], place + (Kind.ofEscaped marker).codeWidth + 1)

/-- The tokens given out at the end of the pattern. -/
def close (s : State) : List Token :=
  let (last, offset) := s.closeMode
  last ++ (List.range' offset s.depth).map fun position => ⟨.groupClose, "", position⟩

/-! ## §3 Streams -/

/-- The tokens given out from a state on for the characters that remain. -/
def tokens (o : Options) (s : State) : List Char → List Token
  | [] => s.close
  | x :: xs => (s.step o x).tokens ++ tokens o (s.after o x) xs

end State

/-- The tokens of a pattern, given out character by character. -/
def tokens (o : Options) (pattern : List Char) : List Token := State.tokens o {} pattern

end RegexTokens.Stream
