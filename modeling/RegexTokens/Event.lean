/-
RegexTokens.Event — what a scan reports about its course, beside the tokens.

An event is recorded when a construct is entered, when a character is asked
for that is not there any more, and once at the end. Each has a level, a
message, and named numbers.
-/
namespace RegexTokens

/-- The parts of a pattern that span more than one token or character. -/
inductive Construct
  | group
  | charClass
  | quantifier
  | escape
  deriving DecidableEq, Repr, Inhabited

/-- The name a construct is reported by. -/
def Construct.name : Construct → String
  | group => "group"
  | charClass => "character class"
  | quantifier => "quantifier"
  | escape => "escape"

/-- How much an event matters: a step of the scan, or its summary. -/
inductive Level
  | trace
  | debug
  deriving DecidableEq, Repr, Inhabited

/-- The name of a level. -/
def Level.name : Level → String
  | trace => "TRACE"
  | debug => "DEBUG"

/-- Something a scan reports. -/
inductive Event
  /-- The scan of a construct starts at `position`. -/
  | entered (construct : Construct) (position : Nat)
  /-- The character at `position` was asked for, past the end of the pattern. -/
  | pastEnd (position : Nat)
  /-- Fewer than `wanted` characters are left from `start` on. -/
  | shortWindow (start wanted : Nat)
  /-- A pattern of `chars` characters was scanned into `tokens` tokens. -/
  | finished (chars tokens : Nat)
  deriving DecidableEq, Repr, Inhabited

namespace Event

/-- The level of an event. -/
def level : Event → Level
  | finished .. => .debug
  | _ => .trace

/-- What an event says. -/
def message : Event → String
  | entered construct _ => construct.name
  | pastEnd _ => "read past end of pattern"
  | shortWindow .. => "short read past end of pattern"
  | finished .. => "tokenized pattern"

/-- The numbers of an event, by name. -/
def fields : Event → List (String × Nat)
  | entered _ position => [("position", position)]
  | pastEnd position => [("position", position)]
  | shortWindow start wanted => [("start", start), ("wanted", wanted)]
  | finished chars tokens => [("chars", chars), ("tokens", tokens)]

end Event

end RegexTokens
