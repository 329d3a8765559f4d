/-
RegexTokens.Fault — what can go wrong, and how it is told.

A fault has a name, a message and sometimes a tip. The message holds every
part of the fault: names and paths in quotes, a reason at the end as it is.
-/
import RegexTokens.Kind
import RegexTokens.Text.Quoted

namespace RegexTokens

/-- A request that cannot be answered, by its cause. -/
inductive Fault
  /-- No kind of token has this name. -/
  | unknownKind (name : String)
  /-- There is nothing to tokenize. -/
  | missingPattern
  /-- The file to read the pattern from cannot be read. -/
  | unreadableInput (path reason : String)
  /-- The tokens cannot be written as a document. -/
  | serialization (reason : String)
  deriving DecidableEq, Repr, Inhabited

namespace Fault

/-- The name of the cause. -/
def name : Fault → String
  | unknownKind _ => "UnknownTokenKind"
  | missingPattern => "MissingPattern"
  | unreadableInput .. => "UnreadableInput"
  | serialization _ => "Serialization"

/-- What went wrong, in one line. -/
def message : Fault → String
  | unknownKind name => "unknown token kind: " ++ Text.quoted name
  | missingPattern => "no pattern given"
  | unreadableInput path reason => "cannot read " ++ Text.quoted path ++ ": " ++ reason
  | serialization reason => "cannot serialize tokens: " ++ reason

theorem message_unknownKind (name : String) :
    (unknownKind name).message = "unknown token kind: " ++ Text.quoted name := rfl

theorem message_missingPattern : missingPattern.message = "no pattern given" := rfl

theorem message_unreadableInput (path reason : String) :
    (unreadableInput path reason).message =
      "cannot read " ++ Text.quoted path ++ ": " ++ reason := rfl

theorem message_serialization (reason : String) :
    (serialization reason).message = "cannot serialize tokens: " ++ reason := rfl

/-- What may help, where something may. -/
def tip : Fault → Option String
  | unknownKind name =>
    some ("`" ++ name ++ "` is not a token kind, expected one of "
      ++ ", ".intercalate (Kind.all.map Kind.name))
  | missingPattern => some "Pass a pattern as an argument or point --file at one"
  | unreadableInput path _ => some ("Could not read `" ++ path ++ "`")
  | serialization _ => none

/-- The fault as it is reported: its name and tip, and its message below. -/
def report (f : Fault) : String :=
  let heading :=
    match f.tip with
    | some tip => f.name ++ " (" ++ tip ++ ")"
    | none => f.name
  "Error: " ++ heading ++ "\n-> " ++ f.message ++ "\n"

end Fault

/-- The kind of a name. A text that names no kind is a fault. -/
def Kind.parse (name : String) : Except Fault Kind :=
  match ofName? name with
  | some kind => .ok kind
  | none => .error (.unknownKind name)

theorem Kind.parse_eq_ok_iff {name : String} {kind : Kind} :
    parse name = .ok kind ↔ name = kind.name := by
  rw [← ofName?_eq_some_iff, parse]
  cases ofName? name <;> simp

theorem Kind.parse_eq_error_iff {name : String} {f : Fault} :
    parse name = .error f ↔ f = .unknownKind name ∧ ∀ kind : Kind, name ≠ kind.name := by
  simp only [ne_eq, ← ofName?_eq_some_iff, parse]
  cases ofName? name <;> simp [eq_comm]

end RegexTokens
