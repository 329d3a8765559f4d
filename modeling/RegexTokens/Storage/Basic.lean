/-
RegexTokens.Storage.Basic — where files are read from.

A storage gives the bytes of a file, or says why it cannot. Text is what the
bytes encode in UTF-8: as a whole, or not at all.
-/
namespace RegexTokens

/-- Why a file cannot be read as text. -/
inductive ReadFailure
  | notFound
  | notDirectory
  | isDirectory
  | nameTooLong
  /-- Any other failure the system reports. -/
  | system (description : String) (code : Nat)
  /-- The bytes of the file are not UTF-8. -/
  | notUtf8
  deriving DecidableEq, Repr, Inhabited

namespace ReadFailure

/-- What a failure is, in words. -/
def description : ReadFailure → String
  | notFound => "No such file or directory"
  | notDirectory => "Not a directory"
  | isDirectory => "Is a directory"
  | nameTooLong => "File name too long"
  | system description _ => description
  | notUtf8 => "stream did not contain valid UTF-8"

/-- The number of a failure, if it is one that the system reports. -/
def code? : ReadFailure → Option Nat
  | notFound => some 2
  | notDirectory => some 20
  | isDirectory => some 21
  | nameTooLong => some 36
  | system _ code => some code
  | notUtf8 => none

/-- The failure in words, with its number if it has one. -/
def reason (f : ReadFailure) : String :=
  match f.code? with
  | some code => f.description ++ " (os error " ++ code.repr ++ ")"
  | none => f.description

/-- The failure that the system reports by a number and a description. -/
def ofSystem (description : String) (code : Nat) : ReadFailure :=
  ([notFound, notDirectory, isDirectory, nameTooLong].find? (·.code? == some code)).getD
    (system description code)

/-- A failure keeps the number it is reported by. -/
theorem code?_ofSystem (description : String) (code : Nat) :
    (ofSystem description code).code? = some code := by
  simp only [ofSystem, Option.getD]
  split
  · rename_i h
    simpa using List.find?_some h
  · rfl

end ReadFailure

/-- The bytes of the file at a path. -/
abbrev Storage := String → Except ReadFailure ByteArray

/-- The text of the file at a path. -/
def Storage.readText (storage : Storage) (path : String) : Except ReadFailure String :=
  match storage path with
  | .error failure => .error failure
  | .ok bytes =>
    match String.fromUTF8? bytes with
    | some text => .ok text
    | none => .error .notUtf8

end RegexTokens
