/-
RegexTokens.Proofs.TranslationTheorems — a scan does not depend on how much of
the pattern stands before it.

Of a cursor every scan reads what is left of the pattern, and writes down its
offset. So the scan from a cursor that stands `n` characters further on, with
the same characters left, is the same scan with `n` added to all positions,
for each construct (§2) and by their recursions for groups and for all items
up to the end (§3).
-/
import RegexTokens.Proofs.Derivation

namespace RegexTokens

/-! ## §1 Moving cursors, events and scans -/

/-- The cursor with `n` more characters before it. -/
def Cursor.shift (n : Nat) (c : Cursor) : Cursor := { c with offset := c.offset + n }

/-- The event as it reads when `n` more characters stand before it. -/
def Event.shift (n : Nat) : Event → Event
  | entered construct position => entered construct (position + n)
  | pastEnd position => pastEnd (position + n)
  | shortWindow start wanted => shortWindow (start + n) wanted
  | finished chars tokens => finished chars tokens

/-- The scan as it reads when `n` more characters stand before it. -/
def Scan.shift (n : Nat) (a : Scan) : Scan where
  tokens := a.tokens.map (Token.shift n)
  events := a.events.map (Event.shift n)
  width := a.width

@[simp] theorem Cursor.offset_shift (n : Nat) (c : Cursor) : (c.shift n).offset = c.offset + n :=
  rfl

@[simp] theorem Cursor.rest_shift (n : Nat) (c : Cursor) : (c.shift n).rest = c.rest := rfl

theorem Cursor.advance_shift (m n : Nat) (c : Cursor) :
    (c.shift n).advance m = (c.advance m).shift n := by
  simp [advance, shift, Nat.add_right_comm]

theorem memberTokens_shift (chars : List Char) (offset n : Nat) :
    memberTokens chars (offset + n) = (memberTokens chars offset).map (Token.shift n) := by
  induction chars generalizing offset with
  | nil => rfl
  | cons x chars ih =>
    rw [memberTokens_cons, memberTokens_cons, Nat.add_right_comm, ih]
    rfl

namespace Scan

@[simp] theorem tokens_shift (n : Nat) (a : Scan) :
    (a.shift n).tokens = a.tokens.map (Token.shift n) := rfl

@[simp] theorem width_shift (n : Nat) (a : Scan) : (a.shift n).width = a.width := rfl

theorem shift_append (n : Nat) (a b : Scan) : (a ++ b).shift n = a.shift n ++ b.shift n := by
  ext1 <;> simp [shift]

/-! ## §2 Constructs -/

theorem symbol_shift (x : Char) (n : Nat) (c : Cursor) :
    symbol x (c.shift n) = (symbol x c).shift n := rfl

theorem closing_shift (kind : Kind) (n : Nat) (c : Cursor) :
    closing kind (c.shift n) = (closing kind c).shift n := by
  rw [closing, closing, Cursor.rest_shift]
  cases c.rest with
  | nil => rfl
  | cons x tail => rfl

theorem members_shift (n : Nat) (c : Cursor) : members (c.shift n) = (members c).shift n := by
  have h := memberTokens_shift (c.rest.takeWhile (· != ']')) c.offset n
  ext1
  · exact h
  · rfl
  · rfl

theorem charClass_shift (n : Nat) (c : Cursor) :
    charClass (c.shift n) = (charClass c).shift n := by
  simp only [charClass, Cursor.advance_shift, members_shift, width_shift, closing_shift,
    shift_append]
  rfl

theorem quantifier_shift (n : Nat) (c : Cursor) :
    quantifier (c.shift n) = (quantifier c).shift n := by
  simp [quantifier, shift, Token.shift, Event.shift, Cursor.advance_shift]
  omega

theorem escape_shift (n : Nat) (c : Cursor) : escape (c.shift n) = (escape c).shift n := by
  simp only [escape, Cursor.advance_shift, Cursor.rest_shift, Cursor.offset_shift]
  split
  · simp [shift, Token.shift, Event.shift, Nat.add_right_comm]
  · simp only [shift, List.map_cons, List.map_nil, Token.shift, Event.shift]
    split <;> simp [Event.shift] <;> omega

theorem plain_shift (x : Char) (n : Nat) (c : Cursor) :
    plain x (c.shift n) = (plain x c).shift n := by
  rw [plain, plain, charClass_shift, quantifier_shift, escape_shift, symbol_shift]
  split
  · rfl
  · split
    · rfl
    · split
      · rfl
      · rfl

theorem opening_shift (n : Nat) (c : Cursor) : opening (c.shift n) = (opening c).shift n := by
  simp only [opening, Cursor.advance_shift, Cursor.rest_shift, Cursor.offset_shift]
  split <;> simp [shift, Token.shift, Event.shift, Nat.add_right_comm]

/-! ## §3 Groups and patterns -/

theorem groupRest_shift (o : Options) (depth n : Nat) (c : Cursor) :
    groupRest o depth (c.shift n) = (groupRest o depth c).shift n := by
  fun_induction groupRest o depth c with
  | case1 c => simp [shift, empty]
  | case2 c outer h ih =>
    rw [groupRest_nil o outer (c := c.shift n) h, closing_shift, Cursor.advance_shift, ih,
      shift_append]
  | case3 c outer tail h ih =>
    rw [groupRest_close o outer (c := c.shift n) h, closing_shift, Cursor.advance_shift, ih,
      shift_append]
  | case4 c outer x tail h hx ho head ih =>
    obtain ⟨rfl, ho⟩ := ho
    rw [groupRest_open ho outer (c := c.shift n) h, opening_shift, width_shift,
      Cursor.advance_shift, ih, shift_append]
  | case5 c outer x tail h hx ho head ih =>
    rw [groupRest_plain outer (c := c.shift n) h hx ho, plain_shift, width_shift,
      Cursor.advance_shift, ih, shift_append]

theorem group_shift (o : Options) (n : Nat) (c : Cursor) :
    group o (c.shift n) = (group o c).shift n := by
  simp only [group, opening_shift, width_shift, Cursor.advance_shift, groupRest_shift,
    shift_append]

theorem item_shift (o : Options) (x : Char) (n : Nat) (c : Cursor) :
    item o x (c.shift n) = (item o x c).shift n := by
  rw [item, item, group_shift, plain_shift]
  split
  · rfl
  · rfl

/-- What is left of a pattern scans alike wherever it stands. -/
theorem items_shift (o : Options) (n : Nat) (c : Cursor) :
    items o (c.shift n) = (items o c).shift n := by
  fun_induction items o c with
  | case1 c h =>
    rw [items_nil o (c := c.shift n) h]
    rfl
  | case2 c x tail h head ih =>
    rw [items_cons o (c := c.shift n) h, item_shift, width_shift, Cursor.advance_shift, ih,
      shift_append]

end Scan

end RegexTokens
