/-
RegexTokens.Proofs.SpellingTheorems — what spelled items are read as.

The words of spelled items are the items (`ofArguments_of_spellsLine`), so
nothing is left of the spelling when the words are taken in order. Each
spelling is told from the others by how its argument starts, and the option
for a file takes the argument behind it along only if it is alone
(`ofArguments_cons`, `ofArguments_file`).
-/
import RegexTokens.Cli.Spelling

namespace RegexTokens.Cli

namespace Word

/-! ## §1 Arguments one by one -/

/-- An argument is read by itself if it is neither two dashes nor the option
for a file. -/
theorem ofArguments_cons {argument : String} (h : argument ≠ "--") (hf : opensFile argument = false)
    (rest : List String) :
    ofArguments (argument :: rest) = ofArgument argument :: ofArguments rest := by
  rw [ofArguments.eq_def]
  dsimp only
  rw [if_neg h, hf]
  rfl

theorem ofArguments_file {option : String} (h : option = "-f" ∨ option = "--file") (path : String)
    (rest : List String) :
    ofArguments (option :: path :: rest) = separate path :: ofArguments rest := by
  rw [ofArguments.eq_def]
  rcases h with rfl | rfl
  · rfl
  · rfl

theorem ofArguments_dashes (texts : List String) :
    ofArguments ("--" :: texts) = texts.map fun text => item (.pattern text) := by
  rw [ofArguments.eq_def]
  rfl

/-! ## §2 Spellings -/

/-- A text that is a dash or does not start with one is not taken for an
option. -/
theorem ofArguments_bare {text : String} (h : text = "-" ∨ ¬['-'] <+: text.toList)
    (rest : List String) : ofArguments (text :: rest) = item (.pattern text) :: ofArguments rest := by
  rcases h with rfl | h
  · exact ofArguments_cons (by decide) (by decide) rest
  · have hne : ∀ option : String, ['-'] <+: option.toList → text ≠ option := by
      rintro option hoption rfl
      exact h hoption
    have hfile : opensFile text = false := by
      simp [opensFile, hne "-f" (by decide), hne "--file" (by decide)]
    have hword : ofArgument text = item (.pattern text) := by
      unfold ofArgument
      cases hx : text.toList with
      | nil => rfl
      | cons x xs =>
        have hdash : x ≠ '-' := by
          rintro rfl
          exact h (by simp [hx])
        simp [hdash]
    rw [ofArguments_cons (hne "--" (by decide)) hfile, hword]

theorem separate_eq {path : String} (h : path ≠ "") (hd : path = "-" ∨ ¬['-'] <+: path.toList) :
    separate path = item (.file path) := by
  rcases hd with rfl | hd
  · rfl
  · unfold separate
    cases hx : path.toList with
    | nil => exact absurd (String.toList_eq_nil_iff.1 hx) h
    | cons x xs =>
      have hdash : x ≠ '-' := by
        rintro rfl
        exact hd (by simp [hx])
      simp [hdash]

theorem attached_eq {path : String} (h : path ≠ "") : attached path.toList = item (.file path) := by
  cases hx : path.toList with
  | nil => exact absurd (String.toList_eq_nil_iff.1 hx) h
  | cons x xs =>
    rw [attached, ← hx, String.ofList_toList]
    simp

/-- A path that is attached to the letter of its option. -/
theorem ofArguments_attached {path : String} (h : path ≠ "") (he : ¬['='] <+: path.toList)
    (rest : List String) :
    ofArguments (("-f" ++ path) :: rest) = item (.file path) :: ofArguments rest := by
  have hchars : ("-f" ++ path).toList = '-' :: 'f' :: path.toList := by simp
  have hne : ∀ option : String, option.toList ≠ '-' :: 'f' :: path.toList → "-f" ++ path ≠ option := by
    rintro option hoption rfl
    exact hoption hchars
  have hpath : path.toList ≠ [] := fun hnil => h (String.toList_eq_nil_iff.1 hnil)
  have hfile : opensFile ("-f" ++ path) = false := by
    simp [opensFile, hne "--file" (by simp), h]
  have hword : ofArgument ("-f" ++ path) = attached path.toList := by
    unfold ofArgument
    rw [hchars]
    cases hx : path.toList with
    | nil => exact absurd hx hpath
    | cons x xs =>
      have hsign : x ≠ '=' := by
        rintro rfl
        exact he (by simp [hx])
      simp [hsign]
  rw [ofArguments_cons (hne "--" (by simp)) hfile, hword, attached_eq h]

/-- A path behind an equals sign. -/
theorem ofArguments_equals {option path : String} (ho : option = "-f" ∨ option = "--file")
    (h : path ≠ "") (rest : List String) :
    ofArguments ((option ++ "=" ++ path) :: rest) = item (.file path) :: ofArguments rest := by
  have hlast : '=' ∈ (option ++ "=" ++ path).toList := by simp
  have hne : ∀ argument : String, '=' ∉ argument.toList → option ++ "=" ++ path ≠ argument := by
    rintro argument hargument rfl
    exact hargument hlast
  have hfile : opensFile (option ++ "=" ++ path) = false := by
    simp [opensFile, hne "-f" (by decide), hne "--file" (by decide)]
  have hword : ofArgument (option ++ "=" ++ path) = attached path.toList := by
    unfold ofArgument
    rcases ho with rfl | rfl
    · have hchars : ("-f" ++ "=" ++ path).toList = '-' :: 'f' :: '=' :: path.toList := by simp
      rw [hchars]
      rfl
    · have hchars : ("--file" ++ "=" ++ path).toList = '-' :: '-' :: ("file=".toList ++ path.toList) := by
        simp
      have hdrop : ("file=".toList ++ path.toList).drop "file=".length = path.toList :=
        List.drop_left
      rw [hchars]
      show ofLong ("file=".toList ++ path.toList) = attached path.toList
      rw [ofLong, hdrop]
      simp
  rw [ofArguments_cons (hne "--" (by decide)) hfile, hword, attached_eq h]

/-! ## §3 Command lines -/

/-- The word of a spelled item is the item. -/
theorem ofArguments_of_spells {spelling : List String} {i : Item} (h : Spells spelling i)
    (rest : List String) : ofArguments (spelling ++ rest) = item i :: ofArguments rest := by
  cases h with
  | json => exact ofArguments_cons (by decide) (by decide) rest
  | nestedGroups => exact ofArguments_cons (by decide) (by decide) rest
  | separate ho hne hd =>
    rw [List.cons_append, List.singleton_append, ofArguments_file ho, separate_eq hne hd]
  | attached hne he => exact ofArguments_attached hne he rest
  | equals ho hne => exact ofArguments_equals ho hne rest
  | bare hd => exact ofArguments_bare hd rest

theorem ofArguments_of_spellsAll {arguments : List String} {is : List Item}
    (h : SpellsAll arguments is) (rest : List String) :
    ofArguments (arguments ++ rest) = is.map item ++ ofArguments rest := by
  induction h with
  | nil => rfl
  | cons hspells _ ih =>
    rw [List.append_assoc, ofArguments_of_spells hspells, ih, List.map_cons, List.cons_append]

/-- The words of a command line of spelled items are the items. -/
theorem ofArguments_of_spellsLine {arguments : List String} {is : List Item}
    (h : SpellsLine arguments is) : ofArguments arguments = is.map item := by
  cases h with
  | items hall =>
    have hwords := ofArguments_of_spellsAll hall []
    rwa [List.append_nil, ofArguments.eq_1, List.append_nil] at hwords
  | dashes texts hall =>
    rw [ofArguments_of_spellsAll hall, ofArguments_dashes, List.map_append, List.map_map]
    rfl

end Word

end RegexTokens.Cli
