/-
RegexTokens.Cli.Spelling — how the items of a command line may be written.

An option without a value has one spelling. The option for a file has five,
of which some do not fit every path: an attached path must be told from the
sign before it, and a separate one from an option. A pattern that looks like
an option can only stand after `--`.
-/
import RegexTokens.Cli.Word

namespace RegexTokens.Cli

/-- The arguments spell the item. -/
inductive Spells : List String → Item → Prop
  | json : Spells ["--json"] .json
  | nestedGroups : Spells ["--nested-groups"] .nestedGroups
  | separate {option path : String} :
    option = "-f" ∨ option = "--file" → path ≠ "" → path = "-" ∨ ¬['-'] <+: path.toList →
      Spells [option, path] (.file path)
  | attached {path : String} :
    path ≠ "" → ¬['='] <+: path.toList → Spells ["-f" ++ path] (.file path)
  | equals {option path : String} :
    option = "-f" ∨ option = "--file" → path ≠ "" → Spells [option ++ "=" ++ path] (.file path)
  | bare {text : String} :
    text = "-" ∨ ¬['-'] <+: text.toList → Spells [text] (.pattern text)

/-- The arguments are spelled items one after the other. -/
inductive SpellsAll : List String → List Item → Prop
  | nil : SpellsAll [] []
  | cons {spelling arguments : List String} {i : Item} {is : List Item} :
    Spells spelling i → SpellsAll arguments is → SpellsAll (spelling ++ arguments) (i :: is)

/-- The arguments are spelled items, and behind two dashes, if they are there,
texts that are patterns whatever they look like. -/
inductive SpellsLine : List String → List Item → Prop
  | items {arguments : List String} {is : List Item} :
    SpellsAll arguments is → SpellsLine arguments is
  | dashes {arguments : List String} {is : List Item} (texts : List String) :
    SpellsAll arguments is → SpellsLine (arguments ++ "--" :: texts) (is ++ texts.map .pattern)

end RegexTokens.Cli
