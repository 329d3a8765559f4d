/-
RegexTokens.Proofs.FileInputTheorems — a pattern in a file is the pattern as
an argument.

A text holds one line and `chomp` finds it (`chomp_eq_iff`): which line ending
is the longest is told by the last character of the line
(`holdsLine_iff`). Bytes are read as a text exactly if they are one
(`readText_of_toUTF8`, `readText_of_not_isUtf8`), and the settings of a command
line write what they write whether the pattern came from a file or not
(`run_of_perm_file`, `run_pattern`).
-/
import RegexTokens.Proofs.CommandLineTheorems
import RegexTokens.Proofs.Utf8Theorems

namespace RegexTokens

/-! ## §1 Lines -/

namespace Text

variable {text line : String}

/-- A line feed and the return before it are told by the line before both. -/
theorem crlf_suffix_append_lf :
    "\r\n".toList <:+ (line ++ "\n").toList ↔ ['\r'] <:+ line.toList := by
  rw [String.toList_append]
  constructor
  · intro h
    obtain hnil | ⟨before, hbefore, hsuffix⟩ := List.suffix_concat_iff.1 h
    · exact absurd hnil (by decide)
    · rwa [← List.append_cancel_right (show ['\r'] ++ ['\n'] = before ++ ['\n'] from hbefore)]
        at hsuffix
  · intro h
    exact List.suffix_concat_iff.2 (.inr ⟨['\r'], rfl, h⟩)

/-- What is behind the line is told by the last character of the text and of
the line. -/
theorem holdsLine_iff :
    HoldsLine text line ↔
      text = line ++ "\r\n" ∨ text = line ++ "\n" ∧ ¬['\r'] <:+ line.toList ∨
        text = line ∧ ¬['\n'] <:+ line.toList := by
  constructor
  · rintro ⟨ending, hending, htext, hlongest⟩
    simp only [List.mem_cons, List.not_mem_nil, or_false] at hending
    rcases hending with rfl | rfl | rfl
    · exact .inl htext
    · refine .inr (.inl ⟨htext, fun hcr => ?_⟩)
      have hboth : "\r\n".toList <:+ text.toList := htext ▸ crlf_suffix_append_lf.2 hcr
      exact absurd (hlongest "\r\n" (by decide) hboth) (by decide)
    · rw [String.append_empty] at htext
      subst htext
      refine .inr (.inr ⟨rfl, fun hlf => ?_⟩)
      exact absurd (hlongest "\n" (by decide) hlf) (by decide)
  · rintro (rfl | ⟨rfl, hcr⟩ | ⟨rfl, hlf⟩)
    · have hlength : ∀ other ∈ ["\r\n", "\n", ""], other.length ≤ "\r\n".length := by decide
      exact ⟨"\r\n", by decide, rfl, fun other hother _ => hlength other hother⟩
    · refine ⟨"\n", by decide, rfl, ?_⟩
      intro other hother hsuffix
      simp only [List.mem_cons, List.not_mem_nil, or_false] at hother
      rcases hother with rfl | rfl | rfl
      · exact absurd (crlf_suffix_append_lf.1 hsuffix) hcr
      · exact Nat.le_refl _
      · exact Nat.zero_le _
    · refine ⟨"", by decide, String.append_empty.symm, ?_⟩
      intro other hother hsuffix
      simp only [List.mem_cons, List.not_mem_nil, or_false] at hother
      rcases hother with rfl | rfl | rfl
      · exact absurd (.trans (List.suffix_cons '\r' ['\n']) hsuffix) hlf
      · exact absurd hsuffix hlf
      · exact Nat.zero_le _

theorem beforeEnding?_toList_append (line ending : String) :
    beforeEnding? (line ++ ending).toList ending.toList = some line.toList := by
  rw [String.toList_append, beforeEnding?_append]

/-- The line of a text is what `chomp` leaves. -/
theorem chomp_eq_of_holdsLine (h : HoldsLine text line) : chomp text = line := by
  rcases holdsLine_iff.1 h with rfl | ⟨rfl, hcr⟩ | ⟨rfl, hlf⟩
  · have hbefore : beforeEnding? _ ['\r', '\n'] = _ := beforeEnding?_toList_append line "\r\n"
    rw [chomp, lineEndings, List.findSome?_cons, hbefore]
    exact String.ofList_toList
  · have hno : beforeEnding? (line ++ "\n").toList ['\r', '\n'] = none :=
      if_neg (mt crlf_suffix_append_lf.1 hcr)
    have hbefore : beforeEnding? _ ['\n'] = _ := beforeEnding?_toList_append line "\n"
    rw [chomp, lineEndings, List.findSome?_cons, hno]
    dsimp only
    rw [List.findSome?_cons, hbefore]
    exact String.ofList_toList
  · have hlong : ¬['\r', '\n'] <:+ text.toList := fun h => hlf (.trans (List.suffix_cons _ _) h)
    simp [chomp, lineEndings, beforeEnding?, hlong, hlf]

/-- Every text holds a line. -/
theorem exists_holdsLine (text : String) : ∃ line, HoldsLine text line := by
  have hback : ∀ {chars : List Char} (before : List Char), before ++ chars = text.toList →
      text = String.ofList before ++ String.ofList chars := by
    intro chars before h
    rw [← String.ofList_append, h, String.ofList_toList]
  by_cases hlf : ['\n'] <:+ text.toList
  · -- the line feed alone is dropped only if no return stands before it
    obtain ⟨before, hbefore⟩ := hlf
    by_cases hcr : ['\r'] <:+ before
    · obtain ⟨line, rfl⟩ := hcr
      rw [List.append_assoc] at hbefore
      exact ⟨String.ofList line, holdsLine_iff.2 (.inl (hback line hbefore))⟩
    · refine ⟨String.ofList before, holdsLine_iff.2 (.inr (.inl ⟨hback before hbefore, ?_⟩))⟩
      rwa [String.toList_ofList]
  · exact ⟨text, holdsLine_iff.2 (.inr (.inr ⟨rfl, hlf⟩))⟩

theorem chomp_eq_iff : chomp text = line ↔ HoldsLine text line := by
  constructor
  · rintro rfl
    obtain ⟨line, hline⟩ := exists_holdsLine text
    rwa [chomp_eq_of_holdsLine hline]
  · exact chomp_eq_of_holdsLine

theorem holdsLine_crlf (line : String) : HoldsLine (line ++ "\r\n") line :=
  holdsLine_iff.2 (.inl rfl)

theorem holdsLine_lf (h : ¬['\r'] <:+ line.toList) : HoldsLine (line ++ "\n") line :=
  holdsLine_iff.2 (.inr (.inl ⟨rfl, h⟩))

/-- A text that does not end in a line feed is a line. -/
theorem holdsLine_self (h : ¬['\n'] <:+ line.toList) : HoldsLine line line :=
  holdsLine_iff.2 (.inr (.inr ⟨rfl, h⟩))

/-- The last character of two texts is that of the second, unless it is
empty. -/
theorem suffix_of_suffix_append {c : Char} {s t : String} (ht : t ≠ "")
    (h : [c] <:+ (s ++ t).toList) : [c] <:+ t.toList := by
  rw [String.toList_append] at h
  refine List.suffix_of_suffix_length_le h (List.suffix_append _ _) ?_
  exact List.length_pos_iff.2 (mt String.toList_eq_nil_iff.1 ht)

theorem not_suffix_append {c : Char} {s t : String} (hs : ¬[c] <:+ s.toList)
    (ht : ¬[c] <:+ t.toList) : ¬[c] <:+ (s ++ t).toList := by
  by_cases hempty : t = ""
  · rwa [hempty, String.append_empty]
  · exact mt (suffix_of_suffix_append hempty) ht

/-- A carriage return without a line feed is part of the line. -/
theorem holdsLine_cr (line : String) : HoldsLine (line ++ "\r") (line ++ "\r") :=
  holdsLine_self fun h => absurd (suffix_of_suffix_append (by decide) h) (by decide)

/-- Of two line endings one is left. -/
theorem holdsLine_two (line : String) {first second : String}
    (hfirst : first ∈ ["\r\n", "\n"]) (hsecond : second ∈ ["\r\n", "\n"]) :
    HoldsLine (line ++ first ++ second) (line ++ first) := by
  have hlast : ∀ ending ∈ ["\r\n", "\n"], ending ≠ "" ∧ ¬['\r'] <:+ ending.toList := by decide
  simp only [List.mem_cons, List.not_mem_nil, or_false] at hsecond
  rcases hsecond with rfl | rfl
  · exact holdsLine_crlf _
  · obtain ⟨hne, hcr⟩ := hlast first hfirst
    exact holdsLine_lf (mt (suffix_of_suffix_append hne) hcr)

/-- A text in front that does not end in a line feed, nor in what may belong to
one, is in front of the line. -/
theorem HoldsLine.behind {start : String} (hcr : ¬['\r'] <:+ start.toList)
    (hlf : ¬['\n'] <:+ start.toList) (h : HoldsLine text line) :
    HoldsLine (start ++ text) (start ++ line) := by
  rcases holdsLine_iff.1 h with rfl | ⟨rfl, hline⟩ | ⟨rfl, hline⟩
  · rw [← String.append_assoc]
    exact holdsLine_crlf _
  · rw [← String.append_assoc]
    exact holdsLine_lf (not_suffix_append hcr hline)
  · exact holdsLine_self (not_suffix_append hlf hline)

end Text

/-! ## §2 Reading -/

namespace Storage

variable {storage : Storage} {path : String}

theorem readText_of_toUTF8 {text : String} (h : storage path = .ok text.toUTF8) :
    storage.readText path = .ok text := by
  have hdecode : String.fromUTF8? text.toUTF8 = some text := dif_pos text.isValidUTF8
  rw [readText, h]
  dsimp only
  rw [hdecode]

theorem readText_of_not_isUtf8 {bytes : ByteArray} (h : storage path = .ok bytes)
    (hbytes : ¬Text.IsUtf8 bytes.data.toList) : storage.readText path = .error .notUtf8 := by
  have hdecode : String.fromUTF8? bytes = none := dif_neg (mt Text.isUtf8_data_iff.2 hbytes)
  rw [readText, h]
  dsimp only
  rw [hdecode]

end Storage

/-! ## §3 Runs -/

namespace Cli

/-- The options that say how tokens are scanned and written, as they stand on
a command line. -/
def flagArguments (json nestedGroups : Bool) : List String :=
  (if json then ["--json"] else []) ++ if nestedGroups then ["--nested-groups"] else []

/-- The items of these options. -/
def flagItems (json nestedGroups : Bool) : List Item :=
  (if json then [.json] else []) ++ if nestedGroups then [.nestedGroups] else []

variable {json nestedGroups : Bool}

theorem spellsAll_flagArguments (json nestedGroups : Bool) :
    SpellsAll (flagArguments json nestedGroups) (flagItems json nestedGroups) := by
  have hnested : SpellsAll (["--nested-groups"] ++ []) [.nestedGroups] := .cons .nestedGroups .nil
  cases json with
  | false =>
    cases nestedGroups with
    | false => exact .nil
    | true => exact hnested
  | true =>
    cases nestedGroups with
    | false => exact .cons .json .nil
    | true => exact .cons .json hnested

/-- The options are the settings that the words behind them are added to. -/
theorem ofWords_flagItems (i : Item) :
    Request.ofWords {} ((flagItems json nestedGroups ++ [i]).map .item) =
      Request.ofWords { json, nestedGroups } [.item i] := by
  cases json with
  | false => cases nestedGroups <;> rfl
  | true => cases nestedGroups <;> rfl

/-- A run with a pattern behind two dashes. -/
theorem run_pattern (storage : Storage) (usage : UsageText) (pattern : String) :
    run storage (flagArguments json nestedGroups ++ ["--", pattern]) usage =
      .success (Settings.output { json, nestedGroups } pattern) := by
  have hspells := SpellsLine.dashes [pattern] (spellsAll_flagArguments json nestedGroups)
  rw [run, ofArguments_of_spellsLine hspells, List.map_singleton, ofWords_flagItems]
  rfl

/-- A run with a file is answered with what the settings write for it. -/
theorem run_of_perm_file (storage : Storage) (usage : UsageText) {path : String}
    {arguments : List String} {is : List Item} (hspells : SpellsLine arguments is)
    (hitems : is.Perm (flagItems json nestedGroups ++ [.file path])) :
    run storage arguments usage =
      match storage.readText path with
      | .ok text => .success (Settings.output { json, nestedGroups } (Text.chomp text))
      | .error why => .failure (.unreadableInput path why.reason) := by
  rw [run, ofArguments_of_spellsLine hspells, Request.ofWords_perm hitems, ofWords_flagItems]
  show Request.answer storage (usage arguments)
    (.tokenize { json, nestedGroups, file := some path }) = _
  rw [Request.answer, Settings.source]
  dsimp only
  cases storage.readText path with
  | ok text => rfl
  | error why => rfl

/-- What a run gives that reads its pattern from a file of these bytes, beside
what runs give for patterns on the command line. -/
structure FileAnswers (bytes : ByteArray) (path : String) (ofPattern : String → Outcome)
    (outcome : Outcome) : Prop where
  /-- The bytes of a text are codes of characters, and no others are. -/
  isUtf8_iff : Text.IsUtf8 bytes.data.toList ↔ ∃ text : String, text.toUTF8 = bytes
  /-- A text holds a line, and the run is the one with this line as its pattern. -/
  of_text : ∀ text : String, text.toUTF8 = bytes →
    ∃ line, Text.HoldsLine text line ∧ outcome = ofPattern line ∧
      outcome.status = 0 ∧ outcome.stderr = ""
  /-- Other bytes are refused. -/
  of_not_isUtf8 : ¬Text.IsUtf8 bytes.data.toList →
    outcome.status = 1 ∧ outcome.stdout = "" ∧
      outcome.stderr = (Fault.unreadableInput path "stream did not contain valid UTF-8").report
  of_crlf : ∀ pattern, (pattern ++ "\r\n").toUTF8 = bytes → outcome = ofPattern pattern
  of_lf : ∀ pattern, ¬['\r'] <:+ pattern.toList → (pattern ++ "\n").toUTF8 = bytes →
    outcome = ofPattern pattern
  /-- No more than one line ending is dropped, -/
  of_two : ∀ pattern, ∀ first ∈ ["\r\n", "\n"], ∀ second ∈ ["\r\n", "\n"],
    (pattern ++ first ++ second).toUTF8 = bytes → outcome = ofPattern (pattern ++ first)
  /-- nor a carriage return alone, -/
  of_cr : ∀ pattern, (pattern ++ "\r").toUTF8 = bytes → outcome = ofPattern (pattern ++ "\r")
  /-- nor a byte order mark. -/
  of_mark : ∀ text line, Text.HoldsLine text line → ("\uFEFF" ++ text).toUTF8 = bytes →
    outcome = ofPattern ("\uFEFF" ++ line)

/-- A run that reads its pattern from a file is the run with the line that the
file holds as its pattern, wherever the options stand and however the file is
given. -/
theorem run_file (storage : Storage) (usage : UsageText) {json nestedGroups : Bool}
    {path : String} {bytes : ByteArray} {arguments : List String} {is : List Item}
    (hspells : SpellsLine arguments is)
    (hitems : is.Perm (flagItems json nestedGroups ++ [.file path]))
    (hbytes : storage path = .ok bytes) :
    FileAnswers bytes path
      (fun pattern => run storage (flagArguments json nestedGroups ++ ["--", pattern]) usage)
      (run storage arguments usage) := by
  have hrun := run_of_perm_file storage usage hspells hitems
  -- what the particular endings have in common
  have hline : ∀ {text line : String}, Text.HoldsLine text line → text.toUTF8 = bytes →
      run storage arguments usage =
        run storage (flagArguments json nestedGroups ++ ["--", line]) usage := by
    rintro text line hholds rfl
    rw [hrun, Storage.readText_of_toUTF8 hbytes, run_pattern, ← Text.chomp_eq_iff.2 hholds]
  exact {
    isUtf8_iff := Text.isUtf8_iff_exists_string
    of_text := by
      intro text htext
      have hholds := Text.chomp_eq_iff.1 (Eq.refl (Text.chomp text))
      have hsame := hline hholds htext
      refine ⟨Text.chomp text, hholds, hsame, ?_, ?_⟩
      · rw [hsame, run_pattern, Outcome.success]
      · rw [hsame, run_pattern, Outcome.success]
    of_not_isUtf8 := by
      intro hno
      rw [hrun, Storage.readText_of_not_isUtf8 hbytes hno]
      exact ⟨rfl, rfl, rfl⟩
    of_crlf := fun pattern => hline (Text.holdsLine_crlf pattern)
    of_lf := fun _ hcr => hline (Text.holdsLine_lf hcr)
    of_two := fun pattern _ hfirst _ hsecond => hline (Text.holdsLine_two pattern hfirst hsecond)
    of_cr := fun pattern => hline (Text.holdsLine_cr pattern)
    of_mark := fun _ _ hholds => hline (hholds.behind (by decide) (by decide)) }

/-- A file that ends in two line feeds, and one that holds a surrogate. -/
theorem run_file_lines :
    let storage := (FileTree.directory
      [("p.re", .file "(a\n\n".toUTF8), ("q.re", .file ⟨#[0xed, 0xa0, 0x80]⟩)]).storage
    SpellsLine ["--file", "p.re", "--json"] [.file "p.re", .json] ∧
      [Item.file "p.re", .json].Perm (flagItems true false ++ [.file "p.re"]) ∧
      storage "p.re" = .ok "(a\n\n".toUTF8 ∧
      run storage ["--file", "p.re", "--json"] blameSecond =
        run storage ["--json", "--", "(a\n"] blameSecond ∧
      SpellsLine ["-f", "q.re"] [.file "q.re"] ∧
      [Item.file "q.re"].Perm (flagItems false false ++ [.file "q.re"]) ∧
      storage "q.re" = .ok ⟨#[0xed, 0xa0, 0x80]⟩ ∧
      (run storage ["-f", "q.re"] blameSecond).status = 1 := by
  intro storage
  have hspells : SpellsLine ["--file", "p.re", "--json"] [.file "p.re", .json] :=
    .items (.cons (.separate (.inr rfl) (by decide) (.inr (by decide))) (.cons .json .nil))
  have hitems : [Item.file "p.re", .json].Perm (flagItems true false ++ [.file "p.re"]) :=
    .swap _ _ _
  have hbytes : storage "p.re" = .ok "(a\n\n".toUTF8 :=
    FileTree.storage_of_lookup (by decide) (by decide) (by decide) rfl
  have hshort : SpellsLine ["-f", "q.re"] [.file "q.re"] :=
    .items (.cons (.separate (.inl rfl) (by decide) (.inr (by decide))) .nil)
  have hitem : [Item.file "q.re"].Perm (flagItems false false ++ [.file "q.re"]) := .refl _
  have hsurrogate : storage "q.re" = .ok ⟨#[0xed, 0xa0, 0x80]⟩ :=
    FileTree.storage_of_lookup (by decide) (by decide) (by decide) rfl
  refine ⟨hspells, hitems, hbytes, ?_, hshort, hitem, hsurrogate, ?_⟩
  · exact (run_file storage blameSecond hspells hitems hbytes).of_two "(a" "\n" (by decide) "\n"
      (by decide) rfl
  · exact ((run_file storage blameSecond hshort hitem hsurrogate).of_not_isUtf8 (by decide)).1

end Cli

end RegexTokens
