/-
RegexTokens.Text.LineEnding — the line ending at the end of a text.

A file that holds one line ends in a line feed, or in a carriage return and
a line feed. `chomp` takes the longer one off where it is there, else the
shorter, and never more than one of them.
-/
namespace RegexTokens.Text

/-- The line endings, the longest first. -/
def lineEndings : List (List Char) := [['\r', '\n'], ['\n']]

/-- The text before a line ending that ends it. -/
def beforeEnding? (s ending : List Char) : Option (List Char) :=
  if ending <:+ s then some (s.take (s.length - ending.length)) else none

/-- The text without the one line ending it ends in, if it ends in one. -/
def chomp (s : String) : String :=
  match lineEndings.findSome? (beforeEnding? s.toList) with
  | some before => String.ofList before
  | none => s

/-- The text is the line and behind it a line ending, the longest that the
text ends in, or nothing if it ends in none. -/
def HoldsLine (text line : String) : Prop :=
  ∃ ending ∈ ["\r\n", "\n", ""], text = line ++ ending ∧
    ∀ other ∈ ["\r\n", "\n", ""],
      other.toList <:+ text.toList → other.length ≤ ending.length

/-- A suffix is taken off. -/
theorem beforeEnding?_append (s ending : List Char) :
    beforeEnding? (s ++ ending) ending = some s := by
  simp [beforeEnding?]

end RegexTokens.Text
