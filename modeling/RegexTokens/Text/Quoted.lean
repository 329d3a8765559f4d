/-
RegexTokens.Text.Quoted — text in double quotes, on one line.

Quoted text shows what it holds: a character with a short escape is written
by it, one that cannot be seen in its place by its code point in
hexadecimal, and any other as it is. A single quote needs no escape between
double quotes.

Among what cannot be seen are the characters with the property
Default_Ignorable_Code_Point of Unicode 17.0: they are shown as nothing at all
where they are not supported. Most are format characters or marks; the fillers
of Hangul are letters.
-/
import RegexTokens.Text.GraphemeExtend
import RegexTokens.Text.Printable

namespace RegexTokens

/-- The code points that are ignored by default, as ranges with both ends
included, in increasing order. -/
def defaultIgnorableRanges : List (Nat × Nat) :=
  [(0x00ad, 0x00ad), (0x034f, 0x034f), (0x061c, 0x061c), (0x115f, 0x1160), (0x17b4, 0x17b5),
    (0x180b, 0x180f), (0x200b, 0x200f), (0x202a, 0x202e), (0x2060, 0x206f), (0x3164, 0x3164),
    (0xfe00, 0xfe0f), (0xfeff, 0xfeff), (0xffa0, 0xffa0), (0xfff0, 0xfff8), (0x1bca0, 0x1bca3),
    (0x1d173, 0x1d17a), (0xe0000, 0xe0fff)]

/-- The character is shown as nothing at all. -/
def isDefaultIgnorable (x : Char) : Bool :=
  defaultIgnorableRanges.any fun (lo, hi) => lo ≤ x.toNat && x.toNat ≤ hi

namespace Text

/-- The letter a character is written by after a backslash. -/
def shortEscape? (x : Char) : Option Char :=
  if x = '\x00' then some '0'
  else if x = '\t' then some 't'
  else if x = '\r' then some 'r'
  else if x = '\n' then some 'n'
  else if x = '"' then some '"'
  else if x = '\\' then some '\\'
  else none

/-- The voiced sound marks of halfwidth Katakana. They extend the character
before them, but take up a place of their own. -/
def voicedSoundMarks : List Char := ['\uff9e', '\uff9f']

/-- The character is drawn onto the one before it. -/
def isDrawnOnto (x : Char) : Bool := isGraphemeExtend x && !voicedSoundMarks.contains x

/-- The character is written by its code point: it is drawn onto the one
before it, or shows nothing, or does not print. -/
def needsCode (x : Char) : Bool := isDrawnOnto x || isDefaultIgnorable x || !isPrintable x

/-- A character as it is written between quotes. -/
def quoteChar (x : Char) : List Char :=
  match shortEscape? x with
  | some letter => ['\\', letter]
  | none =>
    if needsCode x then ['\\', 'u', '{'] ++ Nat.toDigits 16 x.toNat ++ ['}'] else [x]

/-- Text in double quotes. -/
def quoted (s : String) : String :=
  String.ofList ('"' :: s.toList.flatMap quoteChar ++ ['"'])

end Text

end RegexTokens
