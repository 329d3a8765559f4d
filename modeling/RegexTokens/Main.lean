/-
RegexTokens.Main — the command line.

The file that the arguments name is read before they are answered; all else
is decided by `Request.answer`.
-/
import RegexTokens.Cli.Run

namespace RegexTokens.Cli

/-- The number of an error of the file system. Some come with the sign of
their number changed. -/
def errorNumber (code : UInt32) : Nat := code.toInt32.toInt.natAbs

/-- The failure behind an error of the file system. -/
def readFailure : IO.Error → ReadFailure
  | .noFileOrDirectory _ code details | .alreadyExists _ code details
  | .inappropriateType _ code details | .invalidArgument _ code details
  | .noSuchThing _ code details | .permissionDenied _ code details
  | .resourceExhausted _ code details | .interrupted _ code details
  | .otherError code details | .resourceBusy code details | .resourceVanished code details
  | .unsupportedOperation code details | .hardwareFault code details
  | .unsatisfiedConstraints code details | .illegalOperation code details
  | .protocolError code details | .timeExpired code details =>
    .ofSystem details.capitalize (errorNumber code)
  | .unexpectedEof => .ofSystem "Unexpected end of file" 0
  | .userError details => .ofSystem details 0

/-- The bytes of the file at a path, or why they cannot be had. -/
def readFile (path : String) : IO (Except ReadFailure ByteArray) := do
  try
    return .ok (← IO.FS.readBinFile path)
  catch e =>
    return .error (readFailure e)

/-- Reads the file that the arguments name, if they name one, answers them
and writes the answer. -/
def runProgram (arguments : List String) : IO UInt32 := do
  let request := Request.ofArguments arguments
  let content ← match request.file? with
    | some path => readFile path
    | none => pure (.error .notFound)
  let outcome := request.answer (fun _ => content) usageLine
  IO.print outcome.stdout
  IO.eprint outcome.stderr
  return outcome.status.toUInt32

end RegexTokens.Cli

/-- The program, from its arguments to its exit status. -/
def main (arguments : List String) : IO UInt32 := RegexTokens.Cli.runProgram arguments
