/-
RegexTokens.Cli.Run — the program: from arguments and files to its output.

What is said to a command line that asks for nothing the program does is for
the caller to choose: a run takes a `UsageText`, which sees all arguments.
-/
import RegexTokens.Cli.Request
import RegexTokens.Fault
import RegexTokens.Render.Display
import RegexTokens.Scan.Pattern
import RegexTokens.Storage.Basic
import RegexTokens.Text.LineEnding

namespace RegexTokens.Cli

/-! ## §1 Texts -/

/-- How the program is called. -/
def usageLine : String := "Usage: regex-tokenize [OPTIONS] [PATTERN]\n"

/-- What the program does, and what it can be told. -/
def helpText : String :=
  "Print the lexical tokens of a regular expression\n\n" ++ usageLine ++
    "\nArguments:\n" ++
    "  [PATTERN]  Pattern to tokenize\n" ++
    "\nOptions:\n" ++
    "  -f, --file <FILE>    Read the pattern from a file instead\n" ++
    "      --json           Print tokens as a JSON array\n" ++
    "      --nested-groups  Scan groups inside groups as groups\n" ++
    "  -h, --help           Print help\n" ++
    "  -V, --version        Print version\n"

/-- The program's name and version. -/
def versionText : String := "regex-tokenize 0.1.0\n"

/-- What is said to a command line that asks for nothing the program does. It
may depend on all of the arguments, as it does where it names the one that is
to blame. -/
abbrev UsageText := List String → String

/-! ## §2 Outcomes -/

/-- How a run ends: its exit status and what it writes. -/
structure Outcome where
  status : Nat
  stdout : String := ""
  stderr : String := ""
  deriving DecidableEq, Repr, Inhabited

namespace Outcome

/-- The run did what it was asked for. -/
def success (output : String) : Outcome := { status := 0, stdout := output }

/-- The run was stopped by a fault. -/
def failure (f : Fault) : Outcome := { status := 1, stderr := f.report }

/-- The run was not asked for anything that it does, and says so. -/
def misuse (text : String) : Outcome := { status := 2, stderr := text }

end Outcome

/-! ## §3 Runs -/

/-- The pattern that the settings name. A file that holds it may end its one
line with a line ending, which is not part of the pattern. -/
def Settings.source (s : Settings) (storage : Storage) : Except Fault String :=
  match s.file, s.pattern with
  | some path, _ =>
    match storage.readText path with
    | .ok text => .ok (Text.chomp text)
    | .error why => .error (.unreadableInput path why.reason)
  | none, some pattern => .ok pattern
  | none, none => .error .missingPattern

/-- The tokens of a pattern as the settings want them scanned and written. -/
def Settings.output (s : Settings) (pattern : String) : String :=
  let tokens := tokenize pattern { nestedGroups := s.nestedGroups }
  if s.json then renderJson tokens ++ "\n" else renderLines tokens

/-- The answer to a request, where `usage` is what is said of misuse. -/
def Request.answer (storage : Storage) (usage : String) : Request → Outcome
  | help => .success helpText
  | version => .success versionText
  | misuse => .misuse usage
  | tokenize s =>
    match s.source storage with
    | .ok pattern => .success (s.output pattern)
    | .error fault => .failure fault

/-- A run of the program. If no other text is given, misuse is answered with
how the program is called. -/
def run (storage : Storage) (arguments : List String)
    (usage : UsageText := fun _ => usageLine) : Outcome :=
  (Request.ofArguments arguments).answer storage (usage arguments)

end RegexTokens.Cli
