/-
RegexTokens.Json.Grammar — the grammar of JSON, with what each text stands for.

`Reads s p` says that the characters `s` can be read as the phrase `p`: a
value, a value in white space, the elements of an array or the members of an
object. It has one rule for each way to form a phrase and covers all of JSON,
also what no document of tokens is written with: other numbers, escapes and
white space. A value is what the text means, so a number is a rational number,
a string the characters it stands for, and the members of an object stand in
the order in which they are written, all of them.
-/
import RegexTokens.Json

namespace RegexTokens

namespace Json

/-- What a text stands for. -/
inductive Value
  | null
  | bool (b : Bool)
  | number (q : Rat)
  | string (text : String)
  | array (elements : List Value)
  | object (members : List (String × Value))
  deriving Inhabited

/-! ## §1 Numbers -/

/-- One or more digits. -/
@[ext] structure Digits where
  chars : List Char
  ne_nil : chars ≠ []
  isDigit : ∀ x ∈ chars, x.isDigit = true

/-- The number the digits stand for. -/
def Digits.toNat (d : Digits) : Nat := Nat.ofDigitChars 10 d.chars 0

/-- The power of ten a number is multiplied by. -/
@[ext] structure Exponent where
  marker : Char
  sign : Option Char
  digits : Digits
  marker_eq : marker = 'e' ∨ marker = 'E'
  sign_eq : ∀ x ∈ sign, x = '+' ∨ x = '-'

namespace Exponent

def text (e : Exponent) : List Char := e.marker :: (e.sign.toList ++ e.digits.chars)

def toInt (e : Exponent) : Int := if e.sign = some '-' then -e.digits.toNat else e.digits.toNat

end Exponent

/-- A number by its parts. A zero starts the whole part only where it is all of it. -/
@[ext] structure Numeral where
  sign : Option Char
  whole : Digits
  fraction : Option Digits
  exponent : Option Exponent
  sign_eq : ∀ x ∈ sign, x = '-'
  whole_eq : whole.chars.head? = some '0' → whole.chars = ['0']

namespace Numeral

/-- The digits behind the point. -/
def fractionChars (n : Numeral) : List Char := n.fraction.elim [] Digits.chars

def fractionText (n : Numeral) : List Char := n.fraction.elim [] fun d => '.' :: d.chars

def exponentText (n : Numeral) : List Char := n.exponent.elim [] Exponent.text

def text (n : Numeral) : List Char :=
  n.sign.toList ++ (n.whole.chars ++ (n.fractionText ++ n.exponentText))

/-- The number it stands for, exactly. -/
def toRat (n : Numeral) : Rat :=
  let digits : Rat := (Nat.ofDigitChars 10 (n.whole.chars ++ n.fractionChars) 0 : Nat)
  let scale : Int := n.exponent.elim 0 Exponent.toInt - n.fractionChars.length
  (if n.sign = some '-' then -digits else digits) * 10 ^ scale

end Numeral

/-! ## §2 Strings -/

/-- The characters that are written by a letter after a backslash, by letter. -/
def escapes : List (Char × Char) :=
  [('"', '"'), ('\\', '\\'), ('/', '/'), ('b', '\x08'), ('f', '\x0c'), ('n', '\n'), ('r', '\r'),
    ('t', '\t')]

/-- The value of a hexadecimal digit, in either case. -/
def hexDigit? (x : Char) : Option Nat :=
  if x.isDigit then some (x.toNat - '0'.toNat)
  else if 'a' ≤ x ∧ x ≤ 'f' then some (x.toNat - 'a'.toNat + 10)
  else if 'A' ≤ x ∧ x ≤ 'F' then some (x.toNat - 'A'.toNat + 10)
  else none

/-- The number four hexadecimal digits stand for. -/
def fourDigits? (a b c d : Char) : Option Nat := do
  let a ← hexDigit? a
  let b ← hexDigit? b
  let c ← hexDigit? c
  let d ← hexDigit? d
  return ((a * 16 + b) * 16 + c) * 16 + d

/-- A number as it is written in a string. -/
inductive ReadsUnit : List Char → Nat → Prop
  | digits {a b c d : Char} {n : Nat} (h : fourDigits? a b c d = some n) :
      ReadsUnit ['\\', 'u', a, b, c, d] n

/-- A character as it is written in a string. One whose code has more than four
digits is written by two halves, neither of which is the code of a character. -/
inductive ReadsChar : List Char → Char → Prop
  | raw {x : Char} (hcontrol : 0x20 ≤ x.toNat) (hquote : x ≠ '"') (hbackslash : x ≠ '\\') :
      ReadsChar [x] x
  | letter {letter x : Char} (h : escapes.lookup letter = some x) : ReadsChar ['\\', letter] x
  | code {s : List Char} {x : Char} (h : ReadsUnit s x.toNat) : ReadsChar s x
  | halves {s t : List Char} {x : Char} {n : Nat} (high : ReadsUnit s (0xd800 + n / 0x400))
      (low : ReadsUnit t (0xdc00 + n % 0x400)) (h : x.toNat = 0x10000 + n) :
      ReadsChar (s ++ t) x

/-- What stands between the quotes of a string. -/
inductive ReadsChars : List Char → List Char → Prop
  | nil : ReadsChars [] []
  | cons {s t : List Char} {x : Char} {xs : List Char} (head : ReadsChar s x)
      (tail : ReadsChars t xs) : ReadsChars (s ++ t) (x :: xs)

/-- A string in its quotes. -/
inductive ReadsString : List Char → String → Prop
  | quoted {s : List Char} {text : String} (h : ReadsChars s text.toList) :
      ReadsString ('"' :: (s ++ ['"'])) text

/-! ## §3 Documents -/

/-- The characters that may stand around values, names and punctuation. -/
def IsSpace (x : Char) : Prop := x ∈ [' ', '\t', '\n', '\r']

instance : DecidablePred IsSpace := fun x => inferInstanceAs (Decidable (x ∈ _))

/-- White space, or nothing. -/
def IsBlank (s : List Char) : Prop := ∀ x ∈ s, IsSpace x

/-- What a part of a document can be read as. -/
inductive Phrase
  | value (v : Value)
  /-- A value in white space. -/
  | element (v : Value)
  /-- One or more elements, with commas between them. -/
  | elements (vs : List Value)
  /-- A name in white space, a colon and an element. -/
  | member (m : String × Value)
  /-- One or more members, with commas between them. -/
  | members (ms : List (String × Value))

/-- The characters can be read as the phrase. -/
inductive Reads : List Char → Phrase → Prop
  | null : Reads ['n', 'u', 'l', 'l'] (.value .null)
  | false : Reads ['f', 'a', 'l', 's', 'e'] (.value (.bool false))
  | true : Reads ['t', 'r', 'u', 'e'] (.value (.bool true))
  | number (n : Numeral) : Reads n.text (.value (.number n.toRat))
  | string {s : List Char} {text : String} (h : ReadsString s text) :
      Reads s (.value (.string text))
  | emptyArray {blank : List Char} (h : IsBlank blank) :
      Reads ('[' :: (blank ++ [']'])) (.value (.array []))
  | array {s : List Char} {vs : List Value} (h : Reads s (.elements vs)) :
      Reads ('[' :: (s ++ [']'])) (.value (.array vs))
  | emptyObject {blank : List Char} (h : IsBlank blank) :
      Reads ('{' :: (blank ++ ['}'])) (.value (.object []))
  | object {s : List Char} {ms : List (String × Value)} (h : Reads s (.members ms)) :
      Reads ('{' :: (s ++ ['}'])) (.value (.object ms))
  | element {before s after : List Char} {v : Value} (hbefore : IsBlank before)
      (h : Reads s (.value v)) (hafter : IsBlank after) :
      Reads (before ++ (s ++ after)) (.element v)
  | lastElement {s : List Char} {v : Value} (h : Reads s (.element v)) : Reads s (.elements [v])
  | elements {s t : List Char} {v : Value} {vs : List Value} (head : Reads s (.element v))
      (tail : Reads t (.elements vs)) : Reads (s ++ ',' :: t) (.elements (v :: vs))
  | member {before s after t : List Char} {name : String} {v : Value} (hbefore : IsBlank before)
      (hname : ReadsString s name) (hafter : IsBlank after) (h : Reads t (.element v)) :
      Reads (before ++ (s ++ (after ++ ':' :: t))) (.member (name, v))
  | lastMember {s : List Char} {m : String × Value} (h : Reads s (.member m)) :
      Reads s (.members [m])
  | members {s t : List Char} {m : String × Value} {ms : List (String × Value)}
      (head : Reads s (.member m)) (tail : Reads t (.members ms)) :
      Reads (s ++ ',' :: t) (.members (m :: ms))

/-- The text is a document, of this value. -/
def IsText (text : String) (v : Value) : Prop := Reads text.toList (.element v)

/-! ## §4 What is written -/

mutual

/-- What a document stands for. -/
def toValue : Json → Value
  | string text => .string text
  | number n => .number n
  | array items => .array (itemValues items)
  | object members => .object (memberValues members)

/-- What the items of an array stand for. -/
def itemValues : List Json → List Value
  | [] => []
  | item :: items => item.toValue :: itemValues items

/-- What the members of an object stand for, by name. -/
def memberValues : List (String × Json) → List (String × Value)
  | [] => []
  | (key, value) :: members => (key, value.toValue) :: memberValues members

end

end Json

end RegexTokens
