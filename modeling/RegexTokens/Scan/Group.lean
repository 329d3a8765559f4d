/-
RegexTokens.Scan.Group — the scan of groups, and of whole patterns.

A group is scanned with a count of the groups that are open. Inside a group
a closing parenthesis closes the innermost one and the end of the pattern
closes all of them, innermost first. Whether an opening parenthesis inside a
group opens another is the choice of `Options.nestedGroups`.

The count stands for a scan of groups that calls itself. `groupRest_add` says
that the groups close one after the other: what follows `m + n` open groups is
what follows the inner `m`, and then the outer `n`. So a group inside a group
is scanned as a group by itself, and the outer one goes on behind it
(`groupRest_group`).
-/
import RegexTokens.Scan.Construct

namespace RegexTokens.Scan

/-! ## §1 Opening a group -/

/-- The opening of a group: the parenthesis, and what a question mark after
it says about the group. `?=` and `?!` make an assertion of it, recorded
after the question mark with the text of its opening. Any other question
mark is passed over, and what follows it is content. -/
def opening (c : Cursor) : Scan :=
  let parenthesis : Token := ⟨.groupOpen, "(", c.offset⟩
  let entered := [Event.entered .group c.offset]
  match (c.advance 1).rest with
  | '?' :: '=' :: _ => ⟨[parenthesis, ⟨.lookahead, "(?=", c.offset + 2⟩], entered, 3⟩
  | '?' :: '!' :: _ => ⟨[parenthesis, ⟨.negLookahead, "(?!)", c.offset + 2⟩], entered, 3⟩
  | '?' :: _ => ⟨[parenthesis], entered, 2⟩
  | _ => ⟨[parenthesis], entered, 1⟩

theorem width_opening_pos (c : Cursor) : 0 < (opening c).width := by
  simp only [opening]
  split <;> simp

/-! ## §2 The rest of a group -/

/-- The scan from inside `depth` open groups until all of them are closed. -/
def groupRest (o : Options) (depth : Nat) (c : Cursor) : Scan :=
  match depth with
  | 0 => .empty
  | outer + 1 =>
    match _h : c.rest with
    | [] => closing .groupClose c ++ groupRest o outer (c.advance 1)
    | x :: _ =>
      if x = ')' then closing .groupClose c ++ groupRest o outer (c.advance 1)
      else if x = '(' ∧ o.nestedGroups then
        let head := opening c
        head ++ groupRest o (outer + 2) (c.advance head.width)
      else
        let head := plain x c
        head ++ groupRest o (outer + 1) (c.advance head.width)
termination_by (c.rest.length, depth)
decreasing_by
  · simpa [_h] using Prod.Lex.right 0 (Nat.lt_succ_self outer)
  · exact Prod.Lex.left _ _ (Cursor.length_rest_advance_lt (by simp [_h]) Nat.one_pos)
  · exact Prod.Lex.left _ _ (Cursor.length_rest_advance_lt (by simp [_h]) (width_opening_pos c))
  · exact Prod.Lex.left _ _ (Cursor.length_rest_advance_lt (by simp [_h]) (width_plain_pos x c))

/-! One equation for each way on from inside a group. -/

@[simp] theorem groupRest_zero (o : Options) (c : Cursor) : groupRest o 0 c = .empty := by
  rw [groupRest]

theorem groupRest_nil (o : Options) (outer : Nat) {c : Cursor} (h : c.rest = []) :
    groupRest o (outer + 1) c = closing .groupClose c ++ groupRest o outer (c.advance 1) := by
  rw [groupRest]
  split
  · rfl
  · simp_all

theorem groupRest_close (o : Options) (outer : Nat) {c : Cursor} {tail : List Char}
    (h : c.rest = ')' :: tail) :
    groupRest o (outer + 1) c = closing .groupClose c ++ groupRest o outer (c.advance 1) := by
  rw [groupRest]
  split <;> simp_all

theorem groupRest_open {o : Options} (ho : o.nestedGroups = true) (outer : Nat) {c : Cursor}
    {tail : List Char} (h : c.rest = '(' :: tail) :
    groupRest o (outer + 1) c =
      opening c ++ groupRest o (outer + 2) (c.advance (opening c).width) := by
  rw [groupRest]
  split <;> simp_all

theorem groupRest_plain {o : Options} (outer : Nat) {c : Cursor} {x : Char} {tail : List Char}
    (h : c.rest = x :: tail) (hx : x ≠ ')') (ho : ¬(x = '(' ∧ o.nestedGroups = true)) :
    groupRest o (outer + 1) c =
      plain x c ++ groupRest o (outer + 1) (c.advance (plain x c).width) := by
  rw [groupRest]
  split <;> simp_all

/-- Groups close from the inside outwards: first the inner `m`, then the
outer `n`. -/
theorem groupRest_add (o : Options) (m n : Nat) (c : Cursor) :
    groupRest o (m + n) c =
      groupRest o m c ++ groupRest o n (c.advance (groupRest o m c).width) := by
  fun_induction groupRest o m c with
  | case1 c => simp
  | case2 c outer h ih =>
    rw [Nat.succ_add, groupRest_nil o _ h, ih]
    simp [append_assoc, Cursor.advance_advance]
  | case3 c outer tail h ih =>
    rw [Nat.succ_add, groupRest_close o _ h, ih]
    simp [append_assoc, Cursor.advance_advance]
  | case4 c outer x tail h hx ho head ih =>
    obtain ⟨rfl, ho⟩ := ho
    rw [Nat.succ_add, groupRest_open ho _ h, show outer + n + 2 = outer + 2 + n by omega, ih]
    simp [append_assoc, Cursor.advance_advance, head]
  | case5 c outer x tail h hx ho head ih =>
    rw [Nat.succ_add, groupRest_plain _ h hx ho, show outer + n + 1 = outer + 1 + n by omega, ih]
    simp [append_assoc, Cursor.advance_advance, head]

/-- A group, from its parenthesis on. -/
def group (o : Options) (c : Cursor) : Scan :=
  let head := opening c
  head ++ groupRest o 1 (c.advance head.width)

/-- Where groups are nested, a group inside a group is scanned as a group, and
then the rest of the outer one. -/
theorem groupRest_group {o : Options} (ho : o.nestedGroups = true) (outer : Nat) {c : Cursor}
    {tail : List Char} (h : c.rest = '(' :: tail) :
    groupRest o (outer + 1) c =
      group o c ++ groupRest o (outer + 1) (c.advance (group o c).width) := by
  rw [groupRest_open ho outer h, show outer + 2 = 1 + (outer + 1) by omega, groupRest_add]
  simp [group, append_assoc, Cursor.advance_advance]

end RegexTokens.Scan
