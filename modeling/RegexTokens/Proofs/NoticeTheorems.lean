/-
RegexTokens.Proofs.NoticeTheorems — what is asked about the program itself is
answered at once.

A request for help or for the version is answered where it stands, if the
items before it are settings so far (`ofArguments_append_of_some`): that these
could not be answered later, for a file and a pattern or for a file that
cannot be read, is not asked yet, and what comes after is not read. An item
given twice is found before that. Only where an argument is no word of its own
is a request for help none: behind two dashes, and behind the option for a
file.
-/
import RegexTokens.Proofs.CommandLineTheorems

namespace RegexTokens.Cli

/-- The arguments that ask about the program, each with the answer. -/
def notices : List (String × String) :=
  [("-h", helpText), ("--help", helpText), ("-V", versionText), ("--version", versionText)]

namespace Request

section Append

variable {arguments : List String} {is : List Item} (h : SpellsAll arguments is)
include h

/-- What comes behind spelled items is taken in by the settings they make. -/
theorem ofArguments_append_of_some {t : Settings} (ht : ({} : Settings).addAll? is = some t)
    (more : List String) :
    ofArguments (arguments ++ more) = ofWords t (Word.ofArguments more) := by
  rw [ofArguments, Word.ofArguments_of_spellsAll h, ofWords_items_append, ht]

/-- Behind items that make no settings nothing is taken in. -/
theorem ofArguments_append_of_none (ht : ({} : Settings).addAll? is = none)
    (more : List String) : ofArguments (arguments ++ more) = misuse := by
  rw [ofArguments, Word.ofArguments_of_spellsAll h, ofWords_items_append, ht]

end Append

/-- An argument that asks about the program is answered, whatever the settings
are and whatever comes behind it. -/
theorem answer_notice (storage : Storage) (usage : String) {argument text : String}
    (h : (argument, text) ∈ notices) (s : Settings) (more : List String) :
    (ofWords s (Word.ofArguments (argument :: more))).answer storage usage = .success text := by
  simp only [notices, List.mem_cons, List.not_mem_nil, or_false, Prod.mk.injEq] at h
  rcases h with ⟨rfl, rfl⟩ | ⟨rfl, rfl⟩ | ⟨rfl, rfl⟩ | ⟨rfl, rfl⟩
  all_goals
    rw [Word.ofArguments_cons (by decide) (by decide)]
    rfl

/-- An argument that asks about the program is no path behind the option for a
file. -/
theorem ofWords_path_notice {option argument text : String}
    (ho : option = "-f" ∨ option = "--file") (h : (argument, text) ∈ notices) (s : Settings)
    (more : List String) :
    ofWords s (Word.ofArguments (option :: argument :: more)) = misuse := by
  rw [Word.ofArguments_file ho]
  simp only [notices, List.mem_cons, List.not_mem_nil, or_false, Prod.mk.injEq] at h
  rcases h with ⟨rfl, -⟩ | ⟨rfl, -⟩ | ⟨rfl, -⟩ | ⟨rfl, -⟩ <;> rfl

end Request

/-- Where an item was given twice, no settings are left to answer with. -/
theorem Settings.addAll?_eq_none {is : List Item} (h : ∃ k, 1 < (is.map Item.slot).count k) :
    ({} : Settings).addAll? is = none := by
  obtain ⟨k, hk⟩ := h
  rw [Option.eq_none_iff_forall_ne_some]
  intro t ht
  have hnodup := (addAll?_empty_eq_some_iff.1 ht).1
  exact absurd (List.nodup_iff_count.1 hnodup k) (Nat.not_le.2 hk)

/-- Behind two dashes a text is a pattern, and tokenized if it is the only one
and no file is given. -/
theorem run_dashes (storage : Storage) (usage : UsageText) {arguments : List String}
    {is : List Item} (hspells : SpellsAll arguments is) {texts : List String} {text : String}
    (htext : text ∈ texts) :
    (Clash (is ++ texts.map .pattern) →
      (run storage (arguments ++ "--" :: texts) usage).status = 2) ∧
    (¬Clash (is ++ texts.map .pattern) → run storage (arguments ++ "--" :: texts) usage =
      .success ((flags is).output text)) := by
  have hflags : flags (is ++ texts.map .pattern) = flags is := by simp [flags]
  rw [run, ofArguments_of_spellsLine (.dashes texts hspells)]
  constructor
  · intro hclash
    rw [Request.ofWords_of_clash hclash]
    rfl
  · intro hclash
    obtain ⟨t, ht, hwords⟩ := Request.ofWords_of_not_clash hclash
    have hmem : Item.pattern text ∈ is ++ texts.map .pattern :=
      List.mem_append_right is (List.mem_map_of_mem htext)
    rw [hwords, ← hflags]
    exact (answers_of_holds storage _ hclash ht).of_pattern hclash text hmem

/-- Behind spelled items a request for help or for the version is all that is
answered, unless an item was given twice before it. Behind two dashes it is a
pattern, and behind the option for a file it is misuse. -/
theorem run_notice (storage : Storage) (usage : UsageText) {arguments : List String}
    {is : List Item} (hspells : SpellsAll arguments is) {argument text : String}
    (hnotice : (argument, text) ∈ notices) :
    ((∀ k, (is.map Item.slot).count k ≤ 1) → ∀ more : List String,
      run storage (arguments ++ [argument] ++ more) usage =
        { status := 0, stdout := text, stderr := "" }) ∧
    ((∃ k, 1 < (is.map Item.slot).count k) → ∀ more : List String,
      (run storage (arguments ++ [argument] ++ more) usage).status = 2) ∧
    (∀ before after : List String,
      let texts := before ++ [argument] ++ after
      (Clash (is ++ texts.map .pattern) →
        (run storage (arguments ++ "--" :: texts) usage).status = 2) ∧
      (¬Clash (is ++ texts.map .pattern) → run storage (arguments ++ "--" :: texts) usage =
        .success ((flags is).output argument))) ∧
    ∀ option : String, option = "-f" ∨ option = "--file" → ∀ more : List String,
      (run storage (arguments ++ [option, argument] ++ more) usage).status = 2 := by
  refine ⟨?_, ?_, ?_, ?_⟩
  · intro hcount more
    obtain ⟨t, ht⟩ :=
      Settings.exists_addAll? (List.nodup_iff_count.2 hcount) (Settings.free_empty is)
    rw [List.append_assoc, run, Request.ofArguments_append_of_some hspells ht]
    exact Request.answer_notice storage _ hnotice t more
  · intro htwice more
    have hnone := Settings.addAll?_eq_none htwice
    rw [List.append_assoc, run, Request.ofArguments_append_of_none hspells hnone]
    rfl
  · intro before after
    exact run_dashes storage usage hspells (by simp)
  · intro option ho more
    rw [List.append_assoc, run]
    cases ht : ({} : Settings).addAll? is with
    | none =>
      rw [Request.ofArguments_append_of_none hspells ht]
      rfl
    | some t =>
      rw [Request.ofArguments_append_of_some hspells ht, List.cons_append, List.singleton_append,
        Request.ofWords_path_notice ho hnotice t more]
      rfl

/-- Help behind a pattern and a file that is not there, and before an option
that there is not. Behind two options of one sort the version is not given, and
behind two dashes help is tokenized. -/
theorem run_notice_help :
    let storage := (FileTree.directory []).storage
    SpellsAll ["(a)", "--file", "p.re"] [.pattern "(a)", .file "p.re"] ∧
      ("--help", helpText) ∈ notices ∧
      (∀ k, ([Item.pattern "(a)", .file "p.re"].map Item.slot).count k ≤ 1) ∧
      run storage (["(a)", "--file", "p.re"] ++ ["--help"] ++ ["--nested"]) blameSecond =
        { status := 0, stdout := helpText, stderr := "" } ∧
      SpellsAll ["--json", "--json"] [.json, .json] ∧ ("-V", versionText) ∈ notices ∧
      1 < ([Item.json, .json].map Item.slot).count .json ∧
      (run storage (["--json", "--json"] ++ ["-V"] ++ []) blameSecond).status = 2 ∧
      ¬Clash ([] ++ ([] ++ ["--help"] ++ []).map .pattern) ∧
      run storage ([] ++ "--" :: ([] ++ ["--help"] ++ [])) blameSecond =
        .success ((flags []).output "--help") ∧
      (run storage ([] ++ ["-f", "--help"] ++ []) blameSecond).status = 2 := by
  intro storage
  have hpattern : Spells ["(a)"] (.pattern "(a)") := .bare (.inr (by decide))
  have hfile : Spells ["--file", "p.re"] (.file "p.re") :=
    .separate (.inr rfl) (by decide) (.inr (by decide))
  have hboth : SpellsAll ["(a)", "--file", "p.re"] [.pattern "(a)", .file "p.re"] :=
    .cons hpattern (.cons hfile .nil)
  have htwice : SpellsAll ["--json", "--json"] [.json, .json] := .cons .json (.cons .json .nil)
  have hhelp : ("--help", helpText) ∈ notices := by simp [notices]
  have hversion : ("-V", versionText) ∈ notices := by simp [notices]
  have hcount : ∀ k, ([Item.pattern "(a)", .file "p.re"].map Item.slot).count k ≤ 1 := by
    intro k
    cases k <;> decide
  have hclash : ¬Clash ([] ++ ([] ++ ["--help"] ++ []).map .pattern) := by
    rintro (⟨k, hk⟩ | ⟨hfile, -⟩)
    · cases k <;> exact absurd hk (by decide)
    · exact absurd hfile (by decide)
  have hnone := run_notice storage blameSecond .nil hhelp
  exact ⟨hboth, hhelp, hcount, (run_notice storage blameSecond hboth hhelp).1 hcount _, htwice,
    hversion, by decide, (run_notice storage blameSecond htwice hversion).2.1 ⟨.json, by decide⟩ _,
    hclash, (hnone.2.2.1 [] []).2 hclash, hnone.2.2.2 "-f" (.inl rfl) []⟩

end RegexTokens.Cli
