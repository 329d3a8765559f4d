/-
RegexTokens.Proofs.PositionTheorems — positions increase, whatever is scanned
and from where.

`Scan.Within lo` says that the tokens of a scan are recorded one after the
other, none before `lo` and none behind the positions that the scan takes up.
Scans that follow each other keep it (`Within.append`), so that it passes
from single tokens to constructs, from these to groups by their recursion, and
from items to patterns. The character under the cursor plays no part in it,
nor does the end of the pattern.

In a session it is what one move adds to the tokens (`Session.Grows`), be it
the scan of a construct that the caller names or of the next item of the
pattern.
-/
import RegexTokens.Proofs.Derivation
import RegexTokens.Session

namespace RegexTokens

namespace Scan

/-! ## §1 Scans that keep to their positions -/

/-- The tokens of the scan are recorded one after the other, at positions that
the scan takes up if it starts at `lo`. -/
structure Within (lo : Nat) (a : Scan) : Prop where
  increasing : a.tokens.Pairwise (·.position < ·.position)
  bounds : ∀ t ∈ a.tokens, lo ≤ t.position ∧ t.position < lo + a.width

theorem within_empty (lo : Nat) : empty.Within lo := by
  constructor
  · exact List.Pairwise.nil
  · intro t ht
    exact absurd ht List.not_mem_nil

/-- One token is within the positions of its scan if its own position is. -/
theorem within_token {lo width : Nat} {t : Token} {events : List Event} (hlo : lo ≤ t.position)
    (hhi : t.position < lo + width) : (⟨[t], events, width⟩ : Scan).Within lo := by
  constructor
  · exact List.pairwise_singleton _ t
  · intro u hu
    rw [List.mem_singleton] at hu
    subst hu
    exact ⟨hlo, hhi⟩

/-- A second token, recorded behind the first. -/
theorem within_pair {lo width : Nat} {t u : Token} {events : List Event} (hlo : lo ≤ t.position)
    (hlt : t.position < u.position) (hhi : u.position < lo + width) :
    (⟨[t, u], events, width⟩ : Scan).Within lo := by
  constructor
  · exact List.pairwise_pair.2 hlt
  · intro v hv
    rw [List.mem_cons, List.mem_singleton] at hv
    rcases hv with rfl | rfl
    · exact ⟨hlo, Nat.lt_trans hlt hhi⟩
    · exact ⟨Nat.le_trans hlo (Nat.le_of_lt hlt), hhi⟩

theorem Within.append {lo : Nat} {a b : Scan} (ha : a.Within lo) (hb : b.Within (lo + a.width)) :
    (a ++ b).Within lo := by
  constructor
  · rw [tokens_append, List.pairwise_append]
    refine ⟨ha.increasing, hb.increasing, ?_⟩
    intro t ht u hu
    have := (ha.bounds t ht).2
    have := (hb.bounds u hu).1
    omega
  · intro t ht
    rw [tokens_append, List.mem_append] at ht
    rw [width_append]
    rcases ht with ht | ht
    · have := ha.bounds t ht
      omega
    · have := hb.bounds t ht
      omega

/-! ## §2 Constructs -/

theorem within_closing (kind : Kind) (c : Cursor) : (closing kind c).Within c.offset := by
  unfold closing
  split
  · exact within_token (Nat.le_refl _) (Nat.lt_succ_self _)
  · exact within_token (Nat.le_refl _) (Nat.lt_succ_self _)

theorem within_symbol (x : Char) (c : Cursor) : (symbol x c).Within c.offset :=
  within_token (Nat.le_refl _) (Nat.lt_succ_self _)

theorem within_memberTokens (chars : List Char) (lo : Nat) :
    (⟨memberTokens chars lo, [], chars.length⟩ : Scan).Within lo := by
  induction chars generalizing lo with
  | nil => exact within_empty lo
  | cons x chars ih =>
    have hx : (single .char (String.singleton x) lo).Within lo :=
      within_token (Nat.le_refl _) (Nat.lt_succ_self _)
    have hcons : (⟨memberTokens (x :: chars) lo, [], (x :: chars).length⟩ : Scan) =
        single .char (String.singleton x) lo ++ ⟨memberTokens chars (lo + 1), [], chars.length⟩ := by
      ext1 <;> simp [memberTokens_cons, Nat.add_comm]
    rw [hcons]
    exact hx.append (ih (lo + 1))

theorem within_charClass (c : Cursor) : (charClass c).Within c.offset := by
  have hopen : ({ single .rangeOpen "[" c.offset with
      events := [.entered .charClass c.offset] } : Scan).Within c.offset :=
    within_token (Nat.le_refl _) (Nat.lt_succ_self _)
  have hbody : (members (c.advance 1)).Within (c.offset + 1) := within_memberTokens _ _
  have hclose := within_closing .rangeClose (c.advance (1 + (members (c.advance 1)).width))
  refine (hopen.append hbody).append ?_
  rw [Cursor.offset_advance, ← Nat.add_assoc] at hclose
  rw [width_append, ← Nat.add_assoc]
  exact hclose

theorem within_quantifier (c : Cursor) : (quantifier c).Within c.offset := by
  refine within_token ?_ ?_
  · exact Nat.le_trans (Nat.le_add_right _ 1) (Nat.le_add_right _ _)
  · dsimp only
    omega

theorem within_escape (c : Cursor) : (escape c).Within c.offset := by
  unfold escape
  dsimp only
  split
  · exact within_token (Nat.le_add_right _ 1) (Nat.lt_succ_self _)
  · refine within_token (Nat.le_add_right _ 1) ?_
    dsimp only
    omega

theorem within_plain (x : Char) (c : Cursor) : (plain x c).Within c.offset := by
  unfold plain
  split
  · exact within_charClass c
  · split
    · exact within_quantifier c
    · split
      · exact within_escape c
      · exact within_symbol x c

theorem within_opening (c : Cursor) : (opening c).Within c.offset := by
  unfold opening
  dsimp only
  split
  · exact within_pair (Nat.le_refl _) (Nat.lt_add_of_pos_right (by decide)) (Nat.lt_succ_self _)
  · exact within_pair (Nat.le_refl _) (Nat.lt_add_of_pos_right (by decide)) (Nat.lt_succ_self _)
  · exact within_token (Nat.le_refl _) (Nat.lt_add_of_pos_right (by decide))
  · exact within_token (Nat.le_refl _) (Nat.lt_succ_self _)

/-! ## §3 Groups and patterns -/

/-- The scan from inside of open groups, however many, keeps to its
positions. -/
theorem within_groupRest (o : Options) (depth : Nat) (c : Cursor) :
    (groupRest o depth c).Within c.offset := by
  fun_induction groupRest o depth c with
  | case1 c => exact within_empty _
  | case2 c outer h ih =>
    refine (within_closing .groupClose c).append ?_
    rwa [width_closing]
  | case3 c outer tail h ih =>
    refine (within_closing .groupClose c).append ?_
    rwa [width_closing]
  | case4 c outer x tail h hx ho head ih => exact (within_opening c).append ih
  | case5 c outer x tail h hx ho head ih => exact (within_plain x c).append ih

theorem within_group (o : Options) (c : Cursor) : (group o c).Within c.offset :=
  (within_opening c).append (within_groupRest o 1 (c.advance (opening c).width))

theorem within_item (o : Options) (x : Char) (c : Cursor) : (item o x c).Within c.offset := by
  unfold item
  split
  · exact within_group o c
  · exact within_plain x c

theorem within_items (o : Options) (c : Cursor) : (items o c).Within c.offset := by
  fun_induction items o c with
  | case1 c h => exact within_empty _
  | case2 c x tail h head ih => exact (within_item o x c).append ih

/-! ## §4 Something is always scanned -/

theorem tokens_plain_ne_nil (x : Char) (c : Cursor) : (plain x c).tokens ≠ [] := by
  unfold plain
  split
  · simp [charClass]
  · split
    · simp [quantifier]
    · split
      · unfold escape
        dsimp only
        split <;> simp
      · simp [symbol]

theorem tokens_group_ne_nil (o : Options) (c : Cursor) : (group o c).tokens ≠ [] := by
  unfold group opening
  dsimp only
  split <;> simp

theorem tokens_item_ne_nil (o : Options) (x : Char) (c : Cursor) : (item o x c).tokens ≠ [] := by
  unfold item
  split
  · exact tokens_group_ne_nil o c
  · exact tokens_plain_ne_nil x c

end Scan

theorem Construct.within_scan (o : Options) (c : Cursor) (k : Construct) :
    (k.scan o c).Within c.offset := by
  cases k with
  | group => exact Scan.within_group o c
  | charClass => exact Scan.within_charClass c
  | quantifier => exact Scan.within_quantifier c
  | escape => exact Scan.within_escape c

theorem Construct.tokens_scan_ne_nil (o : Options) (c : Cursor) (k : Construct) :
    (k.scan o c).tokens ≠ [] := by
  cases k with
  | group => exact Scan.tokens_group_ne_nil o c
  | charClass => exact Scan.tokens_plain_ne_nil '[' c
  | quantifier => exact Scan.tokens_plain_ne_nil '\x7b' c
  | escape => exact Scan.tokens_plain_ne_nil '\\' c

/-! ## §5 Sessions -/

namespace Session

/-- The session after the scan of an item that starts with `x`. -/
def stepItem (s : Session) (x : Char) : Session :=
  { s with done := s.done ++ .item s.options x s.cursor }

theorem cursor_stepItem (s : Session) (x : Char) :
    (s.stepItem x).cursor = s.cursor.advance (Scan.item s.options x s.cursor).width := by
  simp [stepItem, cursor, Cursor.advance_ofOffset]

/-- To finish a session is to scan one item after the other. -/
theorem finish_stepItem {s : Session} {x : Char} {tail : List Char}
    (h : s.cursor.rest = x :: tail) : (s.stepItem x).finish = s.finish := by
  rw [finish, finish, Scan.items_cons s.options h, cursor_stepItem, ← Scan.append_assoc]
  rfl

theorem finish_of_rest_eq_nil {s : Session} (h : s.cursor.rest = []) : s.finish = s.done := by
  rw [finish, Scan.items_nil s.options h, Scan.append_empty]

/-- The cursor moves on from `s` to `s'`. The tokens of `s` are kept, and at
least one is added. All that are added are recorded one after the other, from
the cursor of `s` on and before that of `s'`. -/
structure Grows (s s' : Session) : Prop where
  cursor_lt : s.cursor.offset < s'.cursor.offset
  exists_tokens : ∃ added, added ≠ [] ∧ s'.done.tokens = s.done.tokens ++ added ∧
    (∀ t ∈ added, s.cursor.offset ≤ t.position ∧ t.position < s'.cursor.offset) ∧
    added.Pairwise (·.position < ·.position)

/-- A scan that keeps to its positions makes the session grow. -/
theorem grows_of_within (s : Session) {a : Scan} (ha : a.Within s.cursor.offset)
    (hne : a.tokens ≠ []) (hpos : 0 < a.width) : s.Grows { s with done := s.done ++ a } := by
  constructor
  · show s.done.width < (s.done ++ a).width
    rw [Scan.width_append]
    omega
  · exact ⟨a.tokens, hne, rfl, ha.bounds, ha.increasing⟩

theorem grows_step (s : Session) (k : Construct) : s.Grows (s.step k) :=
  s.grows_of_within (k.within_scan s.options s.cursor) (k.tokens_scan_ne_nil s.options s.cursor)
    (k.width_scan_pos s.options s.cursor)

theorem grows_stepItem (s : Session) (x : Char) : s.Grows (s.stepItem x) :=
  s.grows_of_within (Scan.within_item s.options x s.cursor)
    (Scan.tokens_item_ne_nil s.options x s.cursor) (Scan.width_item_pos s.options x s.cursor)

/-- What a move adds to tokens that keep to their positions, keeps to them. -/
theorem Grows.within {s s' : Session} (h : s.Grows s') (hs : s.done.Within 0) :
    s'.done.Within 0 := by
  obtain ⟨hlt, added, -, htokens, hbounds, hinc⟩ := h
  have hcursor : s.cursor.offset = s.done.width := rfl
  have hcursor' : s'.cursor.offset = s'.done.width := rfl
  rw [hcursor, hcursor'] at hlt
  rw [hcursor, hcursor'] at hbounds
  constructor
  · rw [htokens, List.pairwise_append]
    refine ⟨hs.increasing, hinc, ?_⟩
    intro t ht u hu
    have := (hs.bounds t ht).2
    have := (hbounds u hu).1
    omega
  · intro t ht
    rw [htokens, List.mem_append] at ht
    rcases ht with ht | ht
    · have := (hs.bounds t ht).2
      omega
    · have := (hbounds t ht).2
      omega

/-- A run of steps, whichever constructs they name, keeps to its positions. -/
theorem within_foldl_step (s : Session) (ks : List Construct) (hs : s.done.Within 0) :
    (ks.foldl step s).done.Within 0 := by
  induction ks generalizing s with
  | nil => exact hs
  | cons k ks ih => exact ih (s.step k) ((s.grows_step k).within hs)

theorem within_finish (s : Session) (hs : s.done.Within 0) : s.finish.Within 0 := by
  have h := Scan.within_items s.options s.cursor
  refine hs.append ?_
  rwa [Nat.zero_add]

end Session

/-- Each step of a session moves its cursor on, keeps the tokens and adds some
between the two cursors, in increasing order. So does each item of the rest,
one after the other until nothing is left. All tokens of a session are in
increasing order then, and so are the tokens of a pattern. -/
theorem positions_increase :
    (∀ (s : Session) (k : Construct), s.Grows (s.step k)) ∧
    (∀ (s : Session) (x : Char), s.Grows (s.stepItem x)) ∧
    (∀ s : Session, s.finish =
      match s.cursor.rest with
      | [] => s.done
      | x :: _ => (s.stepItem x).finish) ∧
    (∀ (pattern : String) (o : Options) (ks : List Construct),
      (ks.foldl Session.step (.start pattern o)).finish.tokens.Pairwise
        (·.position < ·.position)) ∧
    ∀ (pattern : String) (o : Options), (tokenize pattern o).Pairwise (·.position < ·.position) := by
  refine ⟨?_, ?_, ?_, ?_, ?_⟩
  · intro s k
    exact s.grows_step k
  · intro s x
    exact s.grows_stepItem x
  · intro s
    cases h : s.cursor.rest with
    | nil => exact Session.finish_of_rest_eq_nil h
    | cons x tail => exact (Session.finish_stepItem h).symm
  · intro pattern o ks
    have hstart : (Session.start pattern o).done.Within 0 := Scan.within_empty 0
    exact (Session.within_finish _ (Session.within_foldl_step _ ks hstart)).increasing
  · intro pattern o
    exact (Scan.within_items o (.start pattern.toList)).increasing

end RegexTokens
