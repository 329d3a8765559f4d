/-
RegexTokens.Proofs.SessionTheorems — a session goes on with what stands behind
its cursor, and with nothing else.

No construct reads the character that opens it: the scan of a construct is
the same from two cursors that are the same one character further on
(`Construct.scan_congr`), and from two cursors at different offsets it is the
same but for the offset. So what a step adds to a session, and what the rest
of the pattern adds to it after that, depends on the characters behind the
cursor. What was scanned before only says where the cursor stands.

The rest of a pattern is scanned as a pattern of its own (`finish_eq`).
-/
import RegexTokens.Proofs.PositionTheorems
import RegexTokens.Proofs.TranslationTheorems

namespace RegexTokens

/-! ## §1 Cursors that are the same one character further on -/

namespace Cursor

variable {c d : Cursor} (h : c.advance 1 = d.advance 1)
include h

theorem offset_eq_of_advance : c.offset = d.offset := Nat.succ.inj (congrArg offset h)

theorem advance_eq_of_pos {n : Nat} (hn : 0 < n) : c.advance n = d.advance n := by
  obtain ⟨m, rfl⟩ := Nat.exists_eq_add_of_lt hn
  rw [Nat.zero_add, Nat.add_comm, ← advance_advance, h, advance_advance]

end Cursor

namespace Scan

variable {c d : Cursor} (h : c.advance 1 = d.advance 1)
include h

theorem charClass_congr : charClass c = charClass d := by
  have hclose : c.advance (1 + (members (d.advance 1)).width) =
      d.advance (1 + (members (d.advance 1)).width) :=
    Cursor.advance_eq_of_pos h (Nat.lt_add_right _ Nat.one_pos)
  rw [charClass, charClass, Cursor.offset_eq_of_advance h, h, hclose]

theorem quantifier_congr : quantifier c = quantifier d := by
  rw [quantifier, quantifier, Cursor.offset_eq_of_advance h, h]

theorem escape_congr : escape c = escape d := by
  rw [escape, escape, Cursor.offset_eq_of_advance h, h]

theorem opening_congr : opening c = opening d := by
  rw [opening, opening, Cursor.offset_eq_of_advance h, h]

theorem group_congr (o : Options) : group o c = group o d := by
  have hnext : c.advance (opening d).width = d.advance (opening d).width :=
    Cursor.advance_eq_of_pos h (width_opening_pos d)
  rw [group, group, opening_congr h, hnext]

end Scan

/-- No construct reads the character under the cursor. -/
theorem Construct.scan_congr {c d : Cursor} (h : c.advance 1 = d.advance 1) (o : Options)
    (k : Construct) : k.scan o c = k.scan o d := by
  cases k with
  | group => exact Scan.group_congr h o
  | charClass => exact Scan.charClass_congr h
  | quantifier => exact Scan.quantifier_congr h
  | escape => exact Scan.escape_congr h

/-! ## §2 Scans from two places -/

theorem Construct.scan_shift (o : Options) (n : Nat) (c : Cursor) (k : Construct) :
    k.scan o (c.shift n) = (k.scan o c).shift n := by
  cases k with
  | group => exact Scan.group_shift o n c
  | charClass => exact Scan.charClass_shift n c
  | quantifier => exact Scan.quantifier_shift n c
  | escape => exact Scan.escape_shift n c

/-- A cursor is one at the start of what is left, moved on. -/
theorem Cursor.start_shift (c : Cursor) : (start c.rest).shift c.offset = c := by
  simp [start, shift]

/-- The scans `a` and `b` go on to `a'` and `b'` with one and the same scan,
which is moved on to where `a` ends and to where `b` ends. -/
def GoOnAlike (a a' b b' : Scan) : Prop :=
  ∃ more : Scan, a' = a ++ more.shift a.width ∧ b' = b ++ more.shift b.width

namespace Session

variable {s t : Session}

/-- A step adds to the session what its construct scans to from the start of
what is left. -/
theorem next_eq (s : Session) (k : Construct) :
    s.next k = (k.scan s.options (.start s.cursor.rest)).shift s.done.width := by
  rw [next, ← Construct.scan_shift]
  exact congrArg (k.scan s.options) s.cursor.start_shift.symm

/-- The rest of a session is scanned as a pattern of its own, moved on. -/
theorem finish_eq (s : Session) :
    s.finish = s.done ++
      (RegexTokens.scan (String.ofList s.cursor.rest) s.options).shift s.done.width := by
  rw [finish, RegexTokens.scan, String.toList_ofList, ← Scan.items_shift]
  exact congrArg (fun c => s.done ++ Scan.items s.options c) s.cursor.start_shift.symm

/-- The next step yields the same, but for the places, if the same characters
stand behind the cursors. -/
theorem exists_next_eq (ho : s.options = t.options)
    (h : s.cursor.rest.drop 1 = t.cursor.rest.drop 1) (k : Construct) :
    ∃ more : Scan, s.next k = more.shift s.done.width ∧ t.next k = more.shift t.done.width := by
  have hcursor : (Cursor.start s.cursor.rest).advance 1 = (Cursor.start t.cursor.rest).advance 1 := by
    rw [Cursor.advance, Cursor.advance, Cursor.start, Cursor.start, h]
  have hscan := Construct.scan_congr hcursor s.options k
  refine ⟨k.scan s.options (.start s.cursor.rest), s.next_eq k, ?_⟩
  rw [hscan, ho, ← next_eq]

/-- Two sessions make the same step if the same characters stand behind their
cursors. -/
theorem goOnAlike_step (ho : s.options = t.options)
    (h : s.cursor.rest.drop 1 = t.cursor.rest.drop 1) (k : Construct) :
    GoOnAlike s.done (s.step k).done t.done (t.step k).done := by
  obtain ⟨more, hs, ht⟩ := exists_next_eq ho h k
  refine ⟨more, ?_, ?_⟩
  · rw [← hs]
    rfl
  · rw [← ht]
    rfl

/-- Two sessions are finished in the same way if the same characters are
left. -/
theorem goOnAlike_finish (ho : s.options = t.options) (h : s.cursor.rest = t.cursor.rest) :
    GoOnAlike s.done s.finish t.done t.finish := by
  refine ⟨RegexTokens.scan (String.ofList s.cursor.rest) s.options, s.finish_eq, ?_⟩
  rw [h, ho, ← finish_eq]

/-- After a step the same characters are left, if the same characters stood
behind the cursors. -/
theorem rest_cursor_step (ho : s.options = t.options)
    (h : s.cursor.rest.drop 1 = t.cursor.rest.drop 1) (k : Construct) :
    (s.step k).cursor.rest = (t.step k).cursor.rest := by
  obtain ⟨more, hs, ht⟩ := exists_next_eq ho h k
  -- the character under the cursor, which may differ, is behind it after the step
  have hpos : 0 < more.width := by
    rw [← Scan.width_shift s.done.width more, ← hs]
    exact k.width_scan_pos s.options s.cursor
  obtain ⟨n, hn⟩ := Nat.exists_eq_add_of_lt hpos
  rw [Nat.zero_add, Nat.add_comm] at hn
  rw [cursor_step, cursor_step, hs, ht, Scan.width_shift, Scan.width_shift, Cursor.rest_advance,
    Cursor.rest_advance, hn, ← List.drop_drop, ← List.drop_drop, h]

theorem pattern_foldl_step (s : Session) (ks : List Construct) :
    (ks.foldl step s).pattern = s.pattern := by
  induction ks generalizing s with
  | nil => rfl
  | cons k ks ih => exact ih (s.step k)

theorem options_foldl_step (s : Session) (ks : List Construct) :
    (ks.foldl step s).options = s.options := by
  induction ks generalizing s with
  | nil => rfl
  | cons k ks ih => exact ih (s.step k)

end Session

/-- Whatever two sessions have scanned, and wherever they stand, they make the
same steps and are finished in the same way if the same characters stand
behind the character under the cursor. In particular a session is finished, after
any steps, by what the rest of its pattern is tokenized to, moved on to the
cursor. -/
theorem session_goes_on_with_rest :
    (∀ (s t : Session) (k : Construct), s.options = t.options →
      s.pattern.drop (s.cursor.offset + 1) = t.pattern.drop (t.cursor.offset + 1) →
      GoOnAlike s.done (s.step k).done t.done (t.step k).done ∧
      GoOnAlike (s.step k).done (s.step k).finish (t.step k).done (t.step k).finish) ∧
    ∀ (pattern : String) (o : Options) (ks : List Construct),
      let s := ks.foldl Session.step (.start pattern o)
      let rest := String.ofList (pattern.toList.drop s.cursor.offset)
      s.finish.tokens = s.done.tokens ++ (tokenize rest o).map (Token.shift s.cursor.offset) ∧
      (pattern.length ≤ s.cursor.offset → s.finish.tokens = s.done.tokens) := by
  refine ⟨?_, ?_⟩
  · intro s t k ho h
    have hrest : s.cursor.rest.drop 1 = t.cursor.rest.drop 1 := by
      rw [Session.cursor, Session.cursor, Cursor.ofOffset, Cursor.ofOffset, List.drop_drop,
        List.drop_drop]
      exact h
    refine ⟨Session.goOnAlike_step ho hrest k, ?_⟩
    exact Session.goOnAlike_finish ho (Session.rest_cursor_step ho hrest k)
  · intro pattern o ks s rest
    have hpattern : s.pattern = pattern.toList := Session.pattern_foldl_step _ ks
    have hoptions : s.options = o := Session.options_foldl_step _ ks
    have hrest : s.cursor.rest = pattern.toList.drop s.cursor.offset := by
      rw [← hpattern]
      rfl
    refine ⟨?_, ?_⟩
    · rw [s.finish_eq, hrest, hoptions]
      rfl
    · intro hend
      rw [← String.length_toList] at hend
      rw [Session.finish_of_rest_eq_nil (hrest.trans (List.drop_of_length_le hend))]

/-- A session at the start of a pattern, and one inside of another pattern that
has scanned something: both are at a character that a group does not start
with, and go on with the same group. -/
theorem session_goes_on_with_rest_group :
    let s : Session := { pattern := "xa)b".toList }
    let t : Session := { pattern := "(|[a)b".toList, done := ⟨[⟨.pipe, "|", 1⟩], [], 2⟩ }
    s.options = t.options ∧
      s.pattern.drop (s.cursor.offset + 1) = t.pattern.drop (t.cursor.offset + 1) ∧
      GoOnAlike s.done (s.step .group).done t.done (t.step .group).done ∧
      GoOnAlike (s.step .group).done (s.step .group).finish (t.step .group).done
        (t.step .group).finish := by
  intro s t
  have hrest : s.pattern.drop (s.cursor.offset + 1) = t.pattern.drop (t.cursor.offset + 1) := by
    decide
  exact ⟨rfl, hrest, session_goes_on_with_rest.1 s t .group rfl hrest⟩

end RegexTokens
