/-
RegexTokens.Text.Utf8 — which bytes are a text in UTF-8.

A character has one code, of at most four bytes, told by the range that each
byte lies in. The ranges of the second byte are what keeps out a code that is
longer than it has to be, and the numbers that are no characters: surrogates
and all beyond U+10FFFF.
-/
import Mathlib.Data.List.Forall2

namespace RegexTokens.Text

/-- The lowest and the highest byte at one place of a code. -/
abbrev ByteRange := Nat × Nat

namespace ByteRange

/-- The byte lies in the range. -/
def Holds (b : UInt8) (r : ByteRange) : Prop := r.1 ≤ b.toNat ∧ b.toNat ≤ r.2

instance (b : UInt8) (r : ByteRange) : Decidable (Holds b r) :=
  inferInstanceAs (Decidable (_ ∧ _))

/-- A byte that goes on with a code. -/
def tail : ByteRange := (0x80, 0xbf)

end ByteRange

/-- The ranges of the codes, for the characters in order. -/
def charCodes : List (List ByteRange) :=
  [[(0x00, 0x7f)],
    [(0xc2, 0xdf), .tail],
    [(0xe0, 0xe0), (0xa0, 0xbf), .tail],
    [(0xe1, 0xec), .tail, .tail],
    [(0xed, 0xed), (0x80, 0x9f), .tail],
    [(0xee, 0xef), .tail, .tail],
    [(0xf0, 0xf0), (0x90, 0xbf), .tail, .tail],
    [(0xf1, 0xf3), .tail, .tail, .tail],
    [(0xf4, 0xf4), (0x80, 0x8f), .tail, .tail]]

/-- The bytes are the code of a character. -/
def IsCharCode (bytes : List UInt8) : Prop :=
  ∃ ranges ∈ charCodes, List.Forall₂ ByteRange.Holds bytes ranges

/-- The bytes are codes of characters, one behind the other. -/
inductive IsUtf8 : List UInt8 → Prop
  | nil : IsUtf8 []
  | cons {code bytes : List UInt8} : IsCharCode code → IsUtf8 bytes → IsUtf8 (code ++ bytes)

end RegexTokens.Text
