/-
RegexTokens.Json — JSON documents and their indented text.

The text of a document is laid out with one item or member per line, two
spaces deeper than the brackets around it; an array or object without any is
a pair of brackets. Strings are written raw but for the quote, the backslash
and the control characters, which JSON does not allow to stand in a string.
-/
namespace RegexTokens

/-- A document of strings, natural numbers, arrays and objects. The members
of an object are in the order in which they are written. -/
inductive Json
  | string (text : String)
  | number (n : Nat)
  | array (items : List Json)
  | object (members : List (String × Json))
  deriving Repr, Inhabited

namespace Json

/-! ## §1 Strings -/

/-- The letter a character is written by after a backslash. -/
def shortEscape? (x : Char) : Option Char :=
  if x = '"' then some '"'
  else if x = '\\' then some '\\'
  else if x = '\x08' then some 'b'
  else if x = '\x0c' then some 'f'
  else if x = '\n' then some 'n'
  else if x = '\r' then some 'r'
  else if x = '\t' then some 't'
  else none

/-- A character as it is written in a string. A control character without a
letter of its own is written by its code, in four hexadecimal digits. -/
def stringChar (x : Char) : List Char :=
  match shortEscape? x with
  | some letter => ['\\', letter]
  | none =>
    if x.toNat < 0x20 then
      ['\\', 'u', '0', '0', Nat.digitChar (x.toNat / 16), Nat.digitChar (x.toNat % 16)]
    else [x]

/-- A string, with its quotes. -/
def stringText (s : String) : List Char := '"' :: s.toList.flatMap stringChar ++ ['"']

/-! ## §2 Layout -/

/-- A line feed and the indentation of what lies in `depth` brackets. -/
def newline (depth : Nat) : List Char := '\n' :: List.replicate (2 * depth) ' '

/-- Parts between brackets that lie in `depth` brackets themselves, each on a
line of its own. -/
def bracketed (left right : Char) (depth : Nat) (parts : List (List Char)) : List Char :=
  if parts.isEmpty then [left, right]
  else
    left :: newline (depth + 1)
      ++ (',' :: newline (depth + 1)).intercalate parts ++ newline depth ++ [right]

mutual

/-- The text of a document that lies in `depth` brackets. -/
def layout (depth : Nat) : Json → List Char
  | string text => stringText text
  | number n => Nat.toDigits 10 n
  | array items => bracketed '[' ']' depth (layoutItems (depth + 1) items)
  | object members => bracketed '{' '}' depth (layoutMembers (depth + 1) members)

/-- The texts of items that lie in `depth` brackets. -/
def layoutItems (depth : Nat) : List Json → List (List Char)
  | [] => []
  | item :: items => layout depth item :: layoutItems depth items

/-- The texts of members that lie in `depth` brackets. -/
def layoutMembers (depth : Nat) : List (String × Json) → List (List Char)
  | [] => []
  | (key, value) :: members =>
    (stringText key ++ [':', ' '] ++ layout depth value) :: layoutMembers depth members

end

/-- The text of a document. -/
def pretty (j : Json) : String := String.ofList (j.layout 0)

end Json

end RegexTokens
