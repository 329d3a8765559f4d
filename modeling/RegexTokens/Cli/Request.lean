/-
RegexTokens.Cli.Request — what a command line asks for.

The words are taken in order. Help and the version are given as soon as they
are asked for, whatever comes after. A word that means nothing and an item
that was given before are misuse at once; that a file and a pattern were
given, which cannot be, is found at the end.
-/
import RegexTokens.Cli.Word

namespace RegexTokens.Cli

/-- The items given so far. -/
structure Settings where
  json : Bool := false
  nestedGroups : Bool := false
  file : Option String := none
  pattern : Option String := none
  deriving DecidableEq, Repr, Inhabited

/-- The settings with an item more, unless it is there already. -/
def Settings.add? (s : Settings) : Item → Option Settings
  | .json => if s.json then none else some { s with json := true }
  | .nestedGroups => if s.nestedGroups then none else some { s with nestedGroups := true }
  | .file path => if s.file.isSome then none else some { s with file := some path }
  | .pattern text => if s.pattern.isSome then none else some { s with pattern := some text }

/-- What a command line asks for. -/
inductive Request
  | tokenize (s : Settings)
  | help
  | version
  | misuse
  deriving DecidableEq, Repr, Inhabited

namespace Request

/-- The request of the words after those that gave the settings `s`. -/
def ofWords (s : Settings) : List Word → Request
  | [] => if s.file.isSome && s.pattern.isSome then misuse else tokenize s
  | .help :: _ => help
  | .version :: _ => version
  | .invalid :: _ => misuse
  | .item i :: words =>
    match s.add? i with
    | some s => ofWords s words
    | none => misuse

/-- The request of a command line. -/
def ofArguments (arguments : List String) : Request := ofWords {} (Word.ofArguments arguments)

/-- The file a request reads. -/
def file? : Request → Option String
  | tokenize s => s.file
  | _ => none

end Request

end RegexTokens.Cli
