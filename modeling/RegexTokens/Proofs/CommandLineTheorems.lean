/-
RegexTokens.Proofs.CommandLineTheorems — a command line means its items,
whatever their order and spelling.

What the items so far have settled is told by the items that the settings
hold: an item is added exactly if none is held in its slot
(`add?_eq_none_iff`), and all others stay (`holds_of_add?`). After all of them
the settings hold exactly the items of the command line
(`addAll?_empty_eq_some_iff`), and settings that hold the same items are the
same (`ext_holds`): the order is gone. That a file and a pattern do not go
together is found only then, but it is about the same items.

The order may come back in what is said of misuse. A `UsageText` sees the
arguments themselves, and one that names the argument to blame says something
else of the same items in another order (`stderr_of_patterns_swapped`). So runs
of the same items are alike up to this text (`Outcome.Agrees`).
-/
import RegexTokens.Cli.Run
import RegexTokens.Proofs.SpellingTheorems
import RegexTokens.Storage.FileTree

namespace RegexTokens.Cli

/-! ## §1 Items in settings -/

/-- What the settings keep one item of. -/
inductive Slot
  | json
  | nestedGroups
  | file
  | pattern
  deriving DecidableEq, Repr

/-- The slot that an item takes up. -/
def Item.slot : Item → Slot
  | json => .json
  | nestedGroups => .nestedGroups
  | file _ => .file
  | pattern _ => .pattern

namespace Settings

variable {s t : Settings} {i : Item} {is : List Item}

/-- The settings hold the item. -/
def Holds (s : Settings) : Item → Prop
  | .json => s.json = true
  | .nestedGroups => s.nestedGroups = true
  | .file path => s.file = some path
  | .pattern text => s.pattern = some text

theorem not_holds_empty (i : Item) : ¬({} : Settings).Holds i := by
  cases i <;> simp [Holds]

/-- Settings that hold the same items are the same. -/
theorem ext_holds (h : ∀ i, s.Holds i ↔ t.Holds i) : s = t := by
  obtain ⟨json, nestedGroups, file, pattern⟩ := s
  obtain ⟨json', nestedGroups', file', pattern'⟩ := t
  have hjson : json = json' := Bool.eq_iff_iff.2 (h .json)
  have hnested : nestedGroups = nestedGroups' := Bool.eq_iff_iff.2 (h .nestedGroups)
  have hfile : file = file' := Option.ext fun path => h (.file path)
  have hpattern : pattern = pattern' := Option.ext fun text => h (.pattern text)
  rw [hjson, hnested, hfile, hpattern]

/-- The settings hold an item in the slot. -/
def Taken (s : Settings) : Slot → Bool
  | .json => s.json
  | .nestedGroups => s.nestedGroups
  | .file => s.file.isSome
  | .pattern => s.pattern.isSome

theorem taken_iff {k : Slot} : s.Taken k = true ↔ ∃ i, s.Holds i ∧ i.slot = k := by
  constructor
  · intro h
    cases k with
    | json => exact ⟨.json, h, rfl⟩
    | nestedGroups => exact ⟨.nestedGroups, h, rfl⟩
    | file =>
      obtain ⟨path, hpath⟩ := Option.isSome_iff_exists.1 h
      exact ⟨.file path, hpath, rfl⟩
    | pattern =>
      obtain ⟨text, htext⟩ := Option.isSome_iff_exists.1 h
      exact ⟨.pattern text, htext, rfl⟩
  · rintro ⟨i, hi, rfl⟩
    cases i with
    | json => exact hi
    | nestedGroups => exact hi
    | file path => exact Option.isSome_iff_exists.2 ⟨path, hi⟩
    | pattern text => exact Option.isSome_iff_exists.2 ⟨text, hi⟩

/-- An item is refused exactly if its slot is taken. -/
theorem add?_eq_none_iff : s.add? i = none ↔ s.Taken i.slot = true := by
  cases i with
  | _ => simp [add?, Taken, Item.slot, Option.isSome_iff_ne_none]

/-- An item that is added is held beside all that were held before. -/
theorem holds_of_add? (h : s.add? i = some t) (j : Item) : t.Holds j ↔ s.Holds j ∨ j = i := by
  have hfree : ¬s.Taken i.slot = true := by
    rw [← add?_eq_none_iff, h]
    exact Option.some_ne_none t
  cases i with
  | json =>
    have ht : t = { s with json := true } := by simp_all [add?, Taken, Item.slot]
    subst ht
    cases j <;> simp [Holds]
  | nestedGroups =>
    have ht : t = { s with nestedGroups := true } := by simp_all [add?, Taken, Item.slot]
    subst ht
    cases j <;> simp [Holds]
  | file path =>
    have ht : t = { s with file := some path } := by simp_all [add?, Taken, Item.slot]
    have hnone : s.file = none := by simpa [Taken, Item.slot] using hfree
    subst ht
    cases j with
    | file path' => simpa [Holds, hnone] using eq_comm
    | _ => simp [Holds]
  | pattern text =>
    have ht : t = { s with pattern := some text } := by simp_all [add?, Taken, Item.slot]
    have hnone : s.pattern = none := by simpa [Taken, Item.slot] using hfree
    subst ht
    cases j with
    | pattern text' => simpa [Holds, hnone] using eq_comm
    | _ => simp [Holds]

/-- The settings with all items more, unless a slot is taken twice. -/
def addAll? (s : Settings) : List Item → Option Settings
  | [] => some s
  | i :: is => (s.add? i).bind fun t => t.addAll? is

/-- The items find their slots free. -/
def Free (s : Settings) (is : List Item) : Prop := ∀ i ∈ is, ¬s.Taken i.slot = true

theorem free_empty (is : List Item) : ({} : Settings).Free is := by
  intro i _ htaken
  obtain ⟨j, hj, -⟩ := taken_iff.1 htaken
  exact not_holds_empty j hj

/-- All items are added if they have different slots, which are free. -/
theorem exists_addAll? (hnodup : (is.map Item.slot).Nodup) (hfree : s.Free is) :
    ∃ t, s.addAll? is = some t := by
  induction is generalizing s with
  | nil => exact ⟨s, rfl⟩
  | cons i is ih =>
    rw [List.map_cons, List.nodup_cons] at hnodup
    obtain ⟨hi, hnodup⟩ := hnodup
    cases hadd : s.add? i with
    | none => exact absurd (add?_eq_none_iff.1 hadd) (hfree i List.mem_cons_self)
    | some t =>
      have hfree' : t.Free is := by
        intro j hj htaken
        obtain ⟨k, hk, hslot⟩ := taken_iff.1 htaken
        rcases (holds_of_add? hadd k).1 hk with hk | rfl
        · exact hfree j (List.mem_cons_of_mem _ hj) (taken_iff.2 ⟨k, hk, hslot⟩)
        · exact hi (hslot ▸ List.mem_map_of_mem hj)
      obtain ⟨u, hu⟩ := ih hnodup hfree'
      exact ⟨u, by rw [addAll?, hadd, Option.bind_some, hu]⟩

/-- After the items the settings hold what they held before, and the items.
The slots of the items are different then. -/
theorem holds_of_addAll? (h : s.addAll? is = some t) :
    (∀ i, t.Holds i ↔ s.Holds i ∨ i ∈ is) ∧ s.Free is ∧ (is.map Item.slot).Nodup := by
  induction is generalizing s with
  | nil =>
    obtain rfl : s = t := Option.some.inj h
    exact ⟨by simp, by simp [Free], List.nodup_nil⟩
  | cons i is ih =>
    rw [addAll?, Option.bind_eq_some_iff] at h
    obtain ⟨u, hadd, hu⟩ := h
    obtain ⟨hholds, hfree, hnodup⟩ := ih hu
    have hheld := holds_of_add? hadd
    refine ⟨?_, ?_, ?_⟩
    · intro j
      rw [hholds, hheld, List.mem_cons, or_assoc]
    · intro j hj htaken
      rcases List.mem_cons.1 hj with rfl | hj
      · rw [← add?_eq_none_iff, hadd] at htaken
        exact absurd htaken (Option.some_ne_none u)
      · obtain ⟨k, hk, hslot⟩ := taken_iff.1 htaken
        exact hfree j hj (taken_iff.2 ⟨k, (hheld k).2 (.inl hk), hslot⟩)
    · rw [List.map_cons, List.nodup_cons]
      refine ⟨?_, hnodup⟩
      intro hmem
      obtain ⟨j, hj, hslot⟩ := List.mem_map.1 hmem
      exact hfree j hj (taken_iff.2 ⟨i, (hheld i).2 (.inr rfl), hslot.symm⟩)

/-- From nothing on, items make settings if no two have the same slot, and
the settings hold these items. -/
theorem addAll?_empty_eq_some_iff :
    ({} : Settings).addAll? is = some t ↔
      (is.map Item.slot).Nodup ∧ ∀ i, t.Holds i ↔ i ∈ is := by
  constructor
  · intro h
    obtain ⟨hholds, -, hnodup⟩ := holds_of_addAll? h
    refine ⟨hnodup, fun i => ?_⟩
    rw [hholds, or_iff_right (not_holds_empty i)]
  · rintro ⟨hnodup, hholds⟩
    obtain ⟨u, hu⟩ := exists_addAll? hnodup (free_empty is)
    have hholds' := (holds_of_addAll? hu).1
    have heq : u = t := by
      refine ext_holds fun i => ?_
      rw [hholds, hholds', or_iff_right (not_holds_empty i)]
    rw [hu, heq]

end Settings

/-! ## §2 Requests of items -/

/-- The items do not go together: two of them take up the same slot, or they
name a file and a pattern. -/
def Clash (is : List Item) : Prop :=
  (∃ k, 1 < (is.map Item.slot).count k) ∨
    (.file ∈ is.map Item.slot ∧ .pattern ∈ is.map Item.slot)

theorem clash_perm {is is' : List Item} (h : is.Perm is') : Clash is ↔ Clash is' := by
  have hslots := h.map Item.slot
  simp only [Clash, hslots.count_eq, hslots.mem_iff]

theorem nodup_of_not_clash {is : List Item} (h : ¬Clash is) : (is.map Item.slot).Nodup := by
  rw [List.nodup_iff_count]
  intro k
  exact Nat.le_of_not_lt fun hk => h (.inl ⟨k, hk⟩)

/-- Settings have a slot taken if the items they hold take it up. -/
theorem Settings.taken_iff_mem {t : Settings} {is : List Item} (h : ∀ i, t.Holds i ↔ i ∈ is)
    {k : Slot} : t.Taken k = true ↔ k ∈ is.map Item.slot := by
  simp only [taken_iff, h, List.mem_map]

namespace Request

/-- The words behind items are taken in by the settings that the items make,
if they make any. -/
theorem ofWords_items_append (s : Settings) (is : List Item) (words : List Word) :
    ofWords s (is.map .item ++ words) =
      match s.addAll? is with
      | some t => ofWords t words
      | none => misuse := by
  induction is generalizing s with
  | nil => rfl
  | cons i is ih =>
    rw [List.map_cons, List.cons_append, ofWords, Settings.addAll?]
    cases s.add? i with
    | none => rfl
    | some t => exact ih t

theorem ofWords_items (s : Settings) (is : List Item) :
    ofWords s (is.map .item) =
      match s.addAll? is with
      | some t => ofWords t []
      | none => misuse := by
  rw [← ofWords_items_append, List.append_nil]

/-- Items that clash are misuse. -/
theorem ofWords_of_clash {is : List Item} (h : Clash is) : ofWords {} (is.map .item) = misuse := by
  rw [ofWords_items]
  cases hall : ({} : Settings).addAll? is with
  | none => rfl
  | some t =>
    obtain ⟨hnodup, hholds⟩ := Settings.addAll?_empty_eq_some_iff.1 hall
    rcases h with ⟨k, hk⟩ | ⟨hfile, hpattern⟩
    · exact absurd (List.nodup_iff_count.1 hnodup k) (Nat.not_le.2 hk)
    · have hfile' : t.file.isSome = true := (Settings.taken_iff_mem hholds).2 hfile
      have hpattern' : t.pattern.isSome = true := (Settings.taken_iff_mem hholds).2 hpattern
      simp [ofWords, hfile', hpattern']

/-- Items that go together are settings that hold them. -/
theorem ofWords_of_not_clash {is : List Item} (h : ¬Clash is) :
    ∃ t : Settings, (∀ i, t.Holds i ↔ i ∈ is) ∧ ofWords {} (is.map .item) = tokenize t := by
  obtain ⟨t, ht⟩ := Settings.exists_addAll? (nodup_of_not_clash h) (Settings.free_empty is)
  obtain ⟨-, hholds⟩ := Settings.addAll?_empty_eq_some_iff.1 ht
  have hone : (t.file.isSome && t.pattern.isSome) = false := by
    rw [Bool.eq_false_iff]
    intro hboth
    rw [Bool.and_eq_true] at hboth
    obtain ⟨hfile, hpattern⟩ := hboth
    exact h (.inr ⟨(Settings.taken_iff_mem (k := .file) hholds).1 hfile,
      (Settings.taken_iff_mem (k := .pattern) hholds).1 hpattern⟩)
  refine ⟨t, hholds, ?_⟩
  rw [ofWords_items, ht]
  simp [ofWords, hone]

end Request

/-! ## §3 Runs -/

/-- What the items say about how tokens are scanned and written. -/
def flags (is : List Item) : Settings where
  json := decide (.json ∈ is)
  nestedGroups := decide (.nestedGroups ∈ is)

/-- Settings that hold the items write tokens as the items say. -/
theorem Settings.output_eq {t : Settings} {is : List Item} (h : ∀ i, t.Holds i ↔ i ∈ is) :
    t.output = (flags is).output := by
  have hjson : t.json = (flags is).json := Bool.eq_iff_iff.2 ((h .json).trans decide_eq_true_iff.symm)
  have hnested : t.nestedGroups = (flags is).nestedGroups :=
    Bool.eq_iff_iff.2 ((h .nestedGroups).trans decide_eq_true_iff.symm)
  funext pattern
  rw [output, output, hjson, hnested]

/-- The outcome is the one that the items ask for. -/
structure Answers (storage : Storage) (is : List Item) (outcome : Outcome) : Prop where
  /-- Misuse is told by the exit status, -/
  status_eq_two_iff : outcome.status = 2 ↔ Clash is
  /-- and nothing is written in answer. -/
  stdout_of_clash : Clash is → outcome.stdout = ""
  of_none : ¬Clash is → .file ∉ is.map Item.slot → .pattern ∉ is.map Item.slot →
    outcome = .failure .missingPattern
  of_pattern : ¬Clash is → ∀ text, .pattern text ∈ is →
    outcome = .success ((flags is).output text)
  of_file : ¬Clash is → ∀ path text, .file path ∈ is → storage.readText path = .ok text →
    outcome = .success ((flags is).output (Text.chomp text))
  of_unreadable : ¬Clash is → ∀ path why, .file path ∈ is → storage.readText path = .error why →
    outcome = .failure (.unreadableInput path why.reason)

theorem answers_of_clash (storage : Storage) (usage : String) {is : List Item} (h : Clash is) :
    Answers storage is (.misuse usage) where
  status_eq_two_iff := iff_of_true rfl h
  stdout_of_clash _ := rfl
  of_none hno := absurd h hno
  of_pattern hno := absurd h hno
  of_file hno := absurd h hno
  of_unreadable hno := absurd h hno

/-- Items that go together name a file or a pattern, and not both. -/
theorem not_file_and_pattern {is : List Item} (h : ¬Clash is) {path text : String}
    (hpath : .file path ∈ is) : .pattern text ∉ is := by
  intro htext
  exact h (.inr ⟨List.mem_map_of_mem hpath, List.mem_map_of_mem htext⟩)

theorem status_answer_tokenize_ne_two (storage : Storage) (usage : String) (t : Settings) :
    (Request.answer storage usage (.tokenize t)).status ≠ 2 := by
  rw [Request.answer]
  split
  · exact Nat.zero_ne_add_one 1
  · exact Nat.succ_ne_succ_iff.2 Nat.zero_ne_one

/-- Settings that hold the items give the answer that the items ask for. -/
theorem answers_of_holds (storage : Storage) (usage : String) {t : Settings} {is : List Item}
    (hno : ¬Clash is) (h : ∀ i, t.Holds i ↔ i ∈ is) :
    Answers storage is (Request.answer storage usage (.tokenize t)) where
  status_eq_two_iff := iff_of_false (status_answer_tokenize_ne_two storage usage t) hno
  stdout_of_clash hclash := absurd hclash hno
  of_none _ hfile hpattern := by
    have hf : t.file = none := by
      rw [← Option.not_isSome_iff_eq_none]
      exact fun htaken => hfile ((Settings.taken_iff_mem h).1 htaken)
    have hp : t.pattern = none := by
      rw [← Option.not_isSome_iff_eq_none]
      exact fun htaken => hpattern ((Settings.taken_iff_mem h).1 htaken)
    simp [Request.answer, Settings.source, hf, hp]
  of_pattern _ text htext := by
    have hp : t.pattern = some text := (h _).2 htext
    have hf : t.file = none := by
      rw [Option.eq_none_iff_forall_ne_some]
      intro path hpath
      exact not_file_and_pattern hno ((h (.file path)).1 hpath) htext
    simp [Request.answer, Settings.source, hf, hp, Settings.output_eq h]
  of_file _ path text hpath hread := by
    have hf : t.file = some path := (h _).2 hpath
    simp [Request.answer, Settings.source, hf, hread, Settings.output_eq h]
  of_unreadable _ path why hpath hread := by
    have hf : t.file = some path := (h _).2 hpath
    simp [Request.answer, Settings.source, hf, hread]

/-- The outcomes are the same up to what is said of misuse. -/
structure Outcome.Agrees (outcome outcome' : Outcome) : Prop where
  status_eq : outcome.status = outcome'.status
  stdout_eq : outcome.stdout = outcome'.stdout
  /-- What is said of misuse is left open. -/
  stderr_eq : outcome.status ≠ 2 → outcome.stderr = outcome'.stderr

theorem Outcome.Agrees.refl (outcome : Outcome) : outcome.Agrees outcome :=
  ⟨rfl, rfl, fun _ => rfl⟩

/-- A request is answered alike whatever is said of misuse. -/
theorem Request.agrees_answer (storage : Storage) (r : Request) (usage usage' : String) :
    (r.answer storage usage).Agrees (r.answer storage usage') := by
  cases r with
  | misuse => exact ⟨rfl, rfl, fun h => absurd rfl h⟩
  | _ => exact .refl _

/-- What is said of an argument that there is no place for. -/
def unexpectedText (argument : String) : String :=
  "error: unexpected argument '" ++ argument ++ "' found\n\n" ++ usageLine ++
    "\nFor more information, try '--help'.\n"

/-- Where only patterns are given, the second one is to blame. -/
def blameSecond : UsageText := fun arguments => unexpectedText (arguments.getD 1 "")

/-- The request of spelled items is the request of the items. -/
theorem ofArguments_of_spellsLine {arguments : List String} {is : List Item}
    (h : SpellsLine arguments is) :
    Request.ofArguments arguments = Request.ofWords {} (is.map .item) := by
  rw [Request.ofArguments, Word.ofArguments_of_spellsLine h]

/-- Items in another order are the same request. -/
theorem Request.ofWords_perm {is is' : List Item} (h : is.Perm is') :
    ofWords {} (is.map .item) = ofWords {} (is'.map .item) := by
  by_cases hclash : Clash is
  · rw [ofWords_of_clash hclash, ofWords_of_clash ((clash_perm h).1 hclash)]
  · obtain ⟨t, ht, hwords⟩ := ofWords_of_not_clash hclash
    obtain ⟨t', ht', hwords'⟩ := ofWords_of_not_clash (mt (clash_perm h).2 hclash)
    have heq : t = t' := Settings.ext_holds fun i => by rw [ht, ht', h.mem_iff]
    rw [hwords, hwords', heq]

/-- A command line of spelled items gets the answer that its items ask for,
whatever is said of misuse. A command line of the same items, in any order and
however they are spelled, gets the same answer, except that something else may
be said of it if it is misuse. -/
theorem run_of_spellsLine (storage : Storage) (usage : UsageText) {arguments : List String}
    {is : List Item} (h : SpellsLine arguments is) :
    Answers storage is (run storage arguments usage) ∧
      ∀ arguments' is', SpellsLine arguments' is' → is.Perm is' →
        (run storage arguments' usage).Agrees (run storage arguments usage) := by
  refine ⟨?_, ?_⟩
  · rw [run, ofArguments_of_spellsLine h]
    by_cases hclash : Clash is
    · rw [Request.ofWords_of_clash hclash]
      exact answers_of_clash storage (usage arguments) hclash
    · obtain ⟨t, ht, hwords⟩ := Request.ofWords_of_not_clash hclash
      rw [hwords]
      exact answers_of_holds storage (usage arguments) hclash ht
  · intro arguments' is' h' hperm
    rw [run, run, ofArguments_of_spellsLine h, ofArguments_of_spellsLine h',
      Request.ofWords_perm hperm]
    exact Request.agrees_answer storage _ (usage arguments') (usage arguments)

/-- A pattern before an option, and behind it and two dashes. -/
theorem run_of_spellsLine_dashes :
    SpellsLine ["(a)", "--json"] [.pattern "(a)", .json] ∧
      Answers (FileTree.directory []).storage [.pattern "(a)", .json]
        (run (FileTree.directory []).storage ["(a)", "--json"] blameSecond) ∧
      SpellsLine ["--json", "--", "(a)"] [.json, .pattern "(a)"] ∧
      [Item.pattern "(a)", .json].Perm [.json, .pattern "(a)"] ∧
      (run (FileTree.directory []).storage ["--json", "--", "(a)"] blameSecond).Agrees
        (run (FileTree.directory []).storage ["(a)", "--json"] blameSecond) := by
  have hbare : Spells ["(a)"] (.pattern "(a)") := .bare (.inr (by decide))
  have hfirst : SpellsLine ["(a)", "--json"] [.pattern "(a)", .json] :=
    .items (.cons hbare (.cons .json .nil))
  have hbehind : SpellsLine ["--json", "--", "(a)"] [.json, .pattern "(a)"] :=
    .dashes ["(a)"] (.cons .json .nil)
  have hperm : [Item.pattern "(a)", .json].Perm [.json, .pattern "(a)"] := .swap _ _ _
  obtain ⟨hanswers, hsame⟩ := run_of_spellsLine (FileTree.directory []).storage blameSecond hfirst
  exact ⟨hfirst, hanswers, hbehind, hperm, hsame _ _ hbehind hperm⟩

/-- Of two patterns the second is to blame, which is the other one if they change
places. -/
theorem stderr_of_patterns_swapped :
    SpellsLine ["a", "b"] [.pattern "a", .pattern "b"] ∧
      SpellsLine ["b", "a"] [.pattern "b", .pattern "a"] ∧
      [Item.pattern "a", .pattern "b"].Perm [.pattern "b", .pattern "a"] ∧
      (run (FileTree.directory []).storage ["a", "b"] blameSecond).stderr = unexpectedText "b" ∧
      (run (FileTree.directory []).storage ["b", "a"] blameSecond).stderr = unexpectedText "a" ∧
      unexpectedText "b" ≠ unexpectedText "a" := by
  have ha : Spells ["a"] (.pattern "a") := .bare (.inr (by decide))
  have hb : Spells ["b"] (.pattern "b") := .bare (.inr (by decide))
  exact ⟨.items (.cons ha (.cons hb .nil)), .items (.cons hb (.cons ha .nil)), .swap _ _ _,
    rfl, rfl, by decide⟩

end RegexTokens.Cli
