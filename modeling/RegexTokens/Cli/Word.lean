/-
RegexTokens.Cli.Word — what the arguments of the command line say.

Arguments are read from left to right into words. A word is an item (an
option, or a pattern), a request for help or for the version, or something
that means nothing. Only the option for a file takes a value: it may be the
next argument, or attached. After `--` every argument is a pattern.
-/
namespace RegexTokens.Cli

/-- Something that may be given on the command line once. -/
inductive Item
  /-- Print tokens as a JSON array. -/
  | json
  /-- Scan groups inside groups. -/
  | nestedGroups
  /-- Read the pattern from a file. -/
  | file (path : String)
  | pattern (text : String)
  deriving DecidableEq, Repr, Inhabited

/-- One unit of the command line. -/
inductive Word
  | item (i : Item)
  | help
  | version
  | invalid
  deriving DecidableEq, Repr, Inhabited

namespace Word

/-- A file whose path is attached to its option: the path must not be empty. -/
def attached : List Char → Word
  | [] => invalid
  | path => item (.file (String.ofList path))

/-- A file whose path is the argument after its option: the path must not be
empty, nor look like an option. -/
def separate (path : String) : Word :=
  match path.toList with
  | [] => invalid
  | ['-'] => item (.file path)
  | '-' :: _ => invalid
  | _ => item (.file path)

/-- An option with a long name, which was written after two dashes. -/
def ofLong (name : List Char) : Word :=
  if name = "json".toList then item .json
  else if name = "nested-groups".toList then item .nestedGroups
  else if name = "help".toList then help
  else if name = "version".toList then version
  else if "file=".toList <+: name then attached (name.drop "file=".length)
  else invalid

/-- The word of an argument that stands by itself. A dash alone is a pattern.
After the letter for help or for the version the rest of the argument is not
looked at. -/
def ofArgument (argument : String) : Word :=
  match argument.toList with
  | ['-'] => item (.pattern argument)
  | '-' :: '-' :: name => ofLong name
  | '-' :: 'h' :: _ => help
  | '-' :: 'V' :: _ => version
  | '-' :: 'f' :: '=' :: path => attached path
  | '-' :: 'f' :: path => attached path
  | '-' :: _ => invalid
  | _ => item (.pattern argument)

/-- The argument is the option for a file, without a path. -/
def opensFile (argument : String) : Bool := argument = "-f" || argument = "--file"

/-- The words of a command line. -/
def ofArguments : List String → List Word
  | [] => []
  | argument :: rest =>
    if argument = "--" then rest.map fun text => item (.pattern text)
    else if opensFile argument then
      match rest with
      | [] => [invalid]
      | path :: rest => separate path :: ofArguments rest
    else ofArgument argument :: ofArguments rest

end Word

end RegexTokens.Cli
