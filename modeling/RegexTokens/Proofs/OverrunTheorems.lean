/-
RegexTokens.Proofs.OverrunTheorems — how far a scan goes past the end of its
pattern.

A scan ends where its pattern ends, and one position further for each thing
that is missing there: the parenthesis of an open group, the bracket of a
class, the brace of a quantifier, the character behind a backslash, each
character of a code. All of it can be told from the tokens (`Overruns`), and
it is all in what a stream gives out at the end (`Overruns.close`), since the
tokens before that are settled and have text (`Overruns.append`).

The bounds count characters. Each open group has taken a character, and so
has each part of a construct in progress (`depth_add_pending_run_le`), so a
short pattern leaves little open.
-/
import Mathlib.Algebra.Ring.Nat
import RegexTokens.Proofs.CompositionTheorems
import RegexTokens.Proofs.SettledTheorems

namespace RegexTokens

/-! ## §1 What is missing at the end -/

namespace Token

/-- The number of characters that are missing from the code of the token. -/
def missingCode (t : Token) : Nat :=
  if t.kind ∈ [.unicodeEscape, .hexEscape] then t.kind.codeWidth + 2 - t.text.length else 0

/-- The token is a quantifier or an escape that is recorded where a pattern of
`n` characters ends. -/
def EndsAt (n : Nat) (t : Token) : Prop := t.kind ∈ [.quantifier, .escape] ∧ t.position = n

instance (n : Nat) (t : Token) : Decidable (t.EndsAt n) :=
  inferInstanceAs (Decidable (_ ∧ _))

/-- The token was in progress when a pattern of `n` characters ended. -/
def WasOpen (n : Nat) (t : Token) : Prop :=
  t.HasShortCode ∨ t.EndsAt n ∨ t.kind = .rangeClose ∧ t.text = ""

instance (n : Nat) (t : Token) : Decidable (t.WasOpen n) :=
  inferInstanceAs (Decidable (_ ∨ _))

theorem missingCode_eq_zero {t : Token} (h : ¬t.HasShortCode) : t.missingCode = 0 := by
  unfold missingCode
  split
  · rename_i hkind
    have hlength : ¬t.text.length < t.kind.codeWidth + 2 := fun hlt => h ⟨hkind, hlt⟩
    omega
  · rfl

end Token

/-- The tokens have no text and close what is open, at the positions up to
`k`, all of them behind the `n` characters of the pattern. The first may close
a class, and all others close groups. -/
structure ClosesUpTo (n k : Nat) (ts : List Token) : Prop where
  text_eq : ∀ t ∈ ts, t.text = ""
  positions_eq : ∃ start, n ≤ start ∧ start + ts.length = k ∧
    ts.map Token.position = List.range' start ts.length
  kind_head : ∀ t ∈ ts.head?, t.kind = .groupClose ∨ t.kind = .rangeClose
  kind_tail : ∀ t ∈ ts.tail, t.kind = .groupClose

/-- The tokens tell why the scan of a pattern of `n` characters has ended at
`k`. -/
structure Overruns (n k : Nat) (ts : List Token) : Prop where
  /-- There is one position for each token without text, for each character
  that is missing from a code, and for the end of an escape or a quantifier. -/
  width_eq : k = n + ts.countP (·.text = "") + (ts.map Token.missingCode).sum +
    if ∃ t ∈ ts, t.EndsAt n then 1 else 0
  closers : ∃ before last, ts = before ++ last ∧ (∀ t ∈ before, t.text ≠ "") ∧
    ClosesUpTo n k last
  countP_wasOpen_le : ts.countP (·.WasOpen n) ≤ 1

/-- Settled tokens with text do not change what the tokens behind them tell. -/
theorem Overruns.append {n k : Nat} {ts us : List Token} (h : Overruns n k ts)
    (hus : ∀ u ∈ us, u.IsSettled n ∧ u.text ≠ "") : Overruns n k (us ++ ts) := by
  -- a settled token stands before the end and has all of its characters
  have hends : ∀ u ∈ us, ¬u.EndsAt n := by
    rintro u hu ⟨-, hposition⟩
    have hlt := (hus u hu).1.1
    omega
  have hopen : ∀ u ∈ us, ¬u.WasOpen n := by
    rintro u hu (hshort | hend | ⟨-, htext⟩)
    · exact (hus u hu).1.2 hshort
    · exact hends u hu hend
    · exact (hus u hu).2 htext
  obtain ⟨hwidth, ⟨before, last, rfl, hbefore, hlast⟩, hcount⟩ := h
  refine ⟨?_, ?_, ?_⟩
  · have hempty : us.countP (·.text = "") = 0 := by
      rw [List.countP_eq_zero]
      intro u hu
      simpa using (hus u hu).2
    have hmissing : (us.map Token.missingCode).sum = 0 := by
      rw [List.sum_eq_zero_iff_forall_eq_nat]
      intro m hm
      obtain ⟨u, hu, rfl⟩ := List.mem_map.1 hm
      exact Token.missingCode_eq_zero (hus u hu).1.2
    have hsame : (∃ t ∈ us ++ (before ++ last), t.EndsAt n) ↔ ∃ t ∈ before ++ last, t.EndsAt n := by
      constructor
      · rintro ⟨t, ht, hend⟩
        rcases List.mem_append.1 ht with ht | ht
        · exact absurd hend (hends t ht)
        · exact ⟨t, ht, hend⟩
      · rintro ⟨t, ht, hend⟩
        exact ⟨t, List.mem_append_right us ht, hend⟩
    rw [List.countP_append, hempty, List.map_append, List.sum_append, hmissing, Nat.zero_add,
      Nat.zero_add]
    simp only [hsame]
    exact hwidth
  · refine ⟨us ++ before, last, (List.append_assoc us before last).symm, ?_, hlast⟩
    intro t ht
    rcases List.mem_append.1 ht with ht | ht
    · exact (hus t ht).2
    · exact hbefore t ht
  · have hzero : us.countP (·.WasOpen n) = 0 := by
      rw [List.countP_eq_zero]
      intro u hu
      simpa using hopen u hu
    rw [List.countP_append, hzero, Nat.zero_add]
    exact hcount

namespace Stream.State

variable {o : Options}

/-! ## §2 What a stream gives out at the end -/

/-- Closing tokens of open groups, from an offset on. -/
def closers (offset depth : Nat) : List Token :=
  (List.range' offset depth).map fun position => ⟨.groupClose, "", position⟩

theorem close_eq (s : State) : s.close = s.closeMode.1 ++ closers s.closeMode.2 s.depth := rfl

@[simp] theorem length_closers (offset depth : Nat) : (closers offset depth).length = depth := by
  rw [closers, List.length_map, List.length_range']

@[simp] theorem map_position_closers (offset depth : Nat) :
    (closers offset depth).map Token.position = List.range' offset depth := by
  rw [closers, List.map_map]
  exact List.map_id _

theorem eq_of_mem_closers {offset depth : Nat} {t : Token} (ht : t ∈ closers offset depth) :
    t.kind = .groupClose ∧ t.text = "" := by
  obtain ⟨position, -, rfl⟩ := List.mem_map.1 ht
  exact ⟨rfl, rfl⟩

@[simp] theorem countP_text_closers (offset depth : Nat) :
    (closers offset depth).countP (·.text = "") = depth := by
  have hall : (closers offset depth).countP (·.text = "") = (closers offset depth).length := by
    rw [List.countP_eq_length]
    intro t ht
    exact decide_eq_true (eq_of_mem_closers ht).2
  rw [hall, length_closers]

@[simp] theorem sum_missingCode_closers (offset depth : Nat) :
    ((closers offset depth).map Token.missingCode).sum = 0 := by
  rw [List.sum_eq_zero_iff_forall_eq_nat]
  intro m hm
  obtain ⟨t, ht, rfl⟩ := List.mem_map.1 hm
  simp [Token.missingCode, (eq_of_mem_closers ht).1]

theorem not_endsAt_of_mem_closers {n offset depth : Nat} {t : Token}
    (ht : t ∈ closers offset depth) : ¬t.EndsAt n := by
  rintro ⟨hkind, -⟩
  rw [(eq_of_mem_closers ht).1] at hkind
  exact absurd hkind (by decide)

@[simp] theorem countP_wasOpen_closers (n offset depth : Nat) :
    (closers offset depth).countP (·.WasOpen n) = 0 := by
  rw [List.countP_eq_zero]
  intro t ht hopen
  have hkind := (eq_of_mem_closers ht).1
  rcases of_decide_eq_true hopen with ⟨hshort, -⟩ | hend | ⟨hrange, -⟩
  · rw [hkind] at hshort
    exact absurd hshort (by decide)
  · exact not_endsAt_of_mem_closers ht hend
  · rw [hkind] at hrange
    exact absurd hrange (by decide)

theorem closesUpTo_closers {n offset : Nat} (h : n ≤ offset) (depth : Nat) :
    ClosesUpTo n (offset + depth) (closers offset depth) where
  text_eq t ht := (eq_of_mem_closers ht).2
  positions_eq := ⟨offset, h, by simp, by simp⟩
  kind_head t ht := .inl (eq_of_mem_closers (List.mem_of_mem_head? ht)).1
  kind_tail t ht := (eq_of_mem_closers (List.mem_of_mem_tail ht)).1

/-- At the end only groups are open. -/
theorem overruns_closers (n depth : Nat) : Overruns n (n + depth) (closers n depth) where
  width_eq := by
    have hends : ¬∃ t ∈ closers n depth, t.EndsAt n := by
      rintro ⟨t, ht, hend⟩
      exact not_endsAt_of_mem_closers ht hend
    simp [hends]
  closers := ⟨[], closers n depth, rfl, by simp, closesUpTo_closers (Nat.le_refl n) depth⟩
  countP_wasOpen_le := by simp

/-- At the end a class is open, maybe inside of groups. -/
theorem overruns_rangeClose (n depth : Nat) :
    Overruns n (n + 1 + depth) (⟨.rangeClose, "", n⟩ :: closers (n + 1) depth) where
  width_eq := by
    have hends : ¬∃ t ∈ (⟨.rangeClose, "", n⟩ : Token) :: closers (n + 1) depth, t.EndsAt n := by
      rintro ⟨t, ht, hend⟩
      rcases List.mem_cons.1 ht with rfl | ht
      · exact absurd hend.1 (by simp)
      · exact not_endsAt_of_mem_closers ht hend
    rw [if_neg hends]
    simp [Token.missingCode]
    omega
  closers := by
    have hclosers := closesUpTo_closers (Nat.le_refl (n + 1)) depth
    refine ⟨[], _, rfl, by simp, ?_⟩
    constructor
    · intro t ht
      rcases List.mem_cons.1 ht with rfl | ht
      · rfl
      · exact hclosers.text_eq t ht
    · refine ⟨n, Nat.le_refl n, ?_, ?_⟩
      · simp
        omega
      · simp [List.range'_succ]
    · intro t ht
      rw [List.head?_cons, Option.mem_some_iff] at ht
      exact .inr (ht ▸ rfl)
    · intro t ht
      exact (eq_of_mem_closers ht).1
  countP_wasOpen_le := by
    rw [List.countP_cons, countP_wasOpen_closers]
    split <;> decide

/-- At the end a token with some text is in progress, maybe inside of groups.
Its missing characters are passed over before the groups are closed. -/
theorem overruns_cons {n offset : Nat} {t : Token} (ht : t.text ≠ "")
    (hoffset : offset = n + t.missingCode + if t.EndsAt n then 1 else 0) (depth : Nat) :
    Overruns n (offset + depth) (t :: closers offset depth) where
  width_eq := by
    have hends : (∃ u ∈ t :: closers offset depth, u.EndsAt n) ↔ t.EndsAt n := by
      constructor
      · rintro ⟨u, hu, hend⟩
        rcases List.mem_cons.1 hu with rfl | hu
        · exact hend
        · exact absurd hend (not_endsAt_of_mem_closers hu)
      · intro hend
        exact ⟨t, List.mem_cons_self, hend⟩
    simp only [hends, List.countP_cons, countP_text_closers, List.map_cons, List.sum_cons,
      sum_missingCode_closers, ht, decide_false, Bool.false_eq_true, if_false]
    omega
  closers := by
    have hle : n ≤ offset := by omega
    refine ⟨[t], closers offset depth, rfl, ?_, closesUpTo_closers hle depth⟩
    intro u hu
    rw [List.mem_singleton] at hu
    exact hu ▸ ht
  countP_wasOpen_le := by
    rw [List.countP_cons, countP_wasOpen_closers]
    split <;> decide

/-- What a stream gives out at the end tells how far it goes there. -/
theorem Consistent.overruns_close {s : State} (hs : s.Consistent) :
    Overruns s.offset s.closeOffset s.close := by
  obtain ⟨mode, depth, offset⟩ := s
  cases mode with
  | normal => exact overruns_closers offset depth
  | afterOpen => exact overruns_closers offset depth
  | afterMark => exact overruns_closers offset depth
  | inClass => exact overruns_rangeClose offset depth
  | inQuantifier body =>
    have htext : (step.quantifier body offset).text ≠ "" := by
      show String.ofList ('{' :: body ++ ['}']) ≠ ""
      simp
    have hends : (step.quantifier body offset).EndsAt offset := ⟨List.mem_cons_self, rfl⟩
    have hoffset : offset + 1 = offset + (step.quantifier body offset).missingCode +
        if (step.quantifier body offset).EndsAt offset then 1 else 0 := by
      rw [if_pos hends]
      rfl
    exact overruns_cons htext hoffset depth
  | afterBackslash =>
    have hends : (⟨.escape, "\\", offset⟩ : Token).EndsAt offset :=
      ⟨List.mem_cons_of_mem _ List.mem_cons_self, rfl⟩
    have hoffset : offset + 1 = offset + (⟨.escape, "\\", offset⟩ : Token).missingCode +
        if (⟨.escape, "\\", offset⟩ : Token).EndsAt offset then 1 else 0 := by
      rw [if_pos hends]
      rfl
    exact overruns_cons (by simp) hoffset depth
  | inCode marker place code =>
    obtain ⟨hoffset, hlength⟩ := hs
    have hwidth : (Kind.ofEscaped marker).codeWidth ≠ 0 := Nat.ne_of_gt (Nat.zero_lt_of_lt hlength)
    -- a code that has all its characters is no longer in progress
    have hshort : (step.escape marker code place).HasShortCode := by
      refine (Token.hasShortCode_iff_of_codeWidth hwidth).2 ?_
      rw [length_escape]
      exact Nat.add_lt_add_right hlength 2
    have hmissing : (step.escape marker code place).missingCode =
        (Kind.ofEscaped marker).codeWidth - code.length := by
      rw [Token.missingCode, if_pos hshort.1, length_escape]
      exact Nat.add_sub_add_right _ 2 _
    have hends : ¬(step.escape marker code place).EndsAt offset := by
      rintro ⟨hkind, -⟩
      have hdisjoint : ∀ kind ∈ [Kind.unicodeEscape, .hexEscape], kind ∉ [Kind.quantifier, .escape] := by
        decide
      exact hdisjoint _ hshort.1 hkind
    have htext : (step.escape marker code place).text ≠ "" := by
      show String.ofList ('\\' :: marker :: code) ≠ ""
      simp
    have hplace : place + (Kind.ofEscaped marker).codeWidth + 1 =
        offset + (step.escape marker code place).missingCode +
          if (step.escape marker code place).EndsAt offset then 1 else 0 := by
      rw [hmissing, if_neg hends]
      dsimp only at hoffset
      omega
    exact overruns_cons htext hplace depth

/-- What the characters of a stream complete has text. -/
theorem text_ne_of_mem_emitted {s : State} {xs : List Char} {t : Token}
    (ht : t ∈ emitted o s xs) : t.text ≠ "" := by
  intro htext
  have hpos : 0 < t.kind.minLength := by
    generalize t.kind = kind
    cases kind <;> decide
  refine not_isCut_of_mem_emitted ht ?_
  rw [Token.IsCut, htext]
  exact hpos

/-- The tokens of a stream tell how far it goes past its end. -/
theorem overruns_tokens {s : State} (hs : s.Consistent) (xs : List Char) :
    Overruns (s.offset + xs.length) (run o s xs).closeOffset (tokens o s xs) := by
  have hrun : (run o s xs).Consistent := hs.run xs
  have hclose := hrun.overruns_close
  rw [offset_run] at hclose
  rw [tokens_eq_emitted_append]
  refine hclose.append ?_
  intro t ht
  exact ⟨isSettled_of_mem_emitted hs ht, text_ne_of_mem_emitted ht⟩

/-! ## §3 How much can be open -/

/-- The number of characters that the construct in progress has taken. -/
def pending : Mode → Nat
  | .normal | .afterOpen | .afterMark => 0
  | .inClass | .afterBackslash => 1
  | .inQuantifier body => body.length + 1
  | .inCode _ _ code => code.length + 2

/-- One character opens one group at most, or is a part of one construct. -/
theorem Rule.depth_add_pending_le {s : State} {x : Char} {t : Step} (h : Rule o s x t) :
    t.depth + pending t.mode ≤ s.depth + pending s.mode + 1 := by
  cases h with
  | bodyChar hx =>
    simp only [pending, List.length_append, List.length_singleton]
    omega
  | codeChar hw =>
    simp only [pending, List.length_append, List.length_singleton]
    omega
  | _ =>
    simp only [pending, List.length_nil]
    omega

theorem depth_add_pending_run_le (s : State) (xs : List Char) :
    (run o s xs).depth + pending (run o s xs).mode ≤ s.depth + pending s.mode + xs.length := by
  induction xs generalizing s with
  | nil => exact Nat.le_refl _
  | cons x xs ih =>
    have hstep := (rule_step o s x).depth_add_pending_le
    have hrest : (run o (s.after o x) xs).depth + pending (run o (s.after o x) xs).mode ≤
        (s.step o x).depth + pending (s.step o x).mode + xs.length := ih (s.after o x)
    rw [run_cons, List.length_cons]
    omega

/-- Where groups inside of groups are not scanned, one group is open at most. -/
theorem Rule.depth_le_one {s : State} {x : Char} {t : Step} (h : Rule o s x t)
    (ho : o.nestedGroups = false) (hs : s.depth ≤ 1) : t.depth ≤ 1 := by
  cases h with
  | opens hm hopen =>
    rcases hopen with rfl | hnested
    · exact Nat.le_refl 1
    · rw [ho] at hnested
      exact absurd hnested Bool.false_ne_true
  | closes hm => exact Nat.le_of_succ_le hs
  | _ => exact hs

theorem depth_run_le_one (ho : o.nestedGroups = false) {s : State} (hs : s.depth ≤ 1)
    (xs : List Char) : (run o s xs).depth ≤ 1 := by
  induction xs generalizing s with
  | nil => exact hs
  | cons x xs ih => exact ih ((rule_step o s x).depth_le_one ho hs)

/-- One character completes one token at most. -/
theorem Rule.length_tokens_le {s : State} {x : Char} {t : Step} (h : Rule o s x t) :
    t.tokens.length ≤ 1 := by
  cases h with
  | _ => simp

theorem length_emitted_le (s : State) (xs : List Char) : (emitted o s xs).length ≤ xs.length := by
  induction xs generalizing s with
  | nil => exact Nat.le_refl 0
  | cons x xs ih =>
    have hstep := (rule_step o s x).length_tokens_le
    have hrest := ih (s.after o x)
    rw [emitted, List.length_append, List.length_cons]
    omega

theorem length_close (s : State) : s.close.length = s.closeMode.1.length + s.depth := by
  rw [close_eq, List.length_append, length_closers]

/-- At most one token is in progress, and it has taken a character. -/
theorem length_closeMode_le (s : State) :
    s.closeMode.1.length ≤ 1 ∧ s.closeMode.1.length ≤ pending s.mode := by
  obtain ⟨mode, depth, offset⟩ := s
  cases mode with
  | _ => simp [closeMode, pending]

/-- The token in progress goes at most the width of a code past the end, and
not so far if it has taken few characters. -/
theorem Consistent.closeMode_le {s : State} (hs : s.Consistent) :
    s.closeMode.2 ≤ s.offset + 4 ∧ s.closeMode.2 ≤ s.offset + pending s.mode + 2 := by
  obtain ⟨mode, depth, offset⟩ := s
  cases mode with
  | inCode marker place code =>
    obtain ⟨hoffset, -⟩ := hs
    have hwidth : ∀ kind : Kind, kind.codeWidth ≤ 4 := by
      intro kind
      cases kind <;> decide
    have hmarker := hwidth (.ofEscaped marker)
    simp only [closeMode, pending] at hoffset ⊢
    omega
  | _ =>
    simp only [closeMode, pending]
    omega

/-! ## §4 Streams from the start -/

/-- All that is open at the end has been opened by the characters. -/
theorem depth_add_pending_le (o : Options) (xs : List Char) :
    (run o {} xs).depth + pending (run o {} xs).mode ≤ xs.length := by
  have h := depth_add_pending_run_le (o := o) {} xs
  rwa [show ({} : State).depth + pending ({} : State).mode = 0 from rfl, Nat.zero_add] at h

theorem closeOffset_run_le (o : Options) (xs : List Char) :
    (run o {} xs).closeOffset ≤ 2 * xs.length + 2 := by
  have hrun : (run o {} xs).Consistent := consistent_start.run xs
  have hshort := hrun.closeMode_le.2
  have hopen := depth_add_pending_le o xs
  rw [offset_run, Nat.zero_add] at hshort
  rw [closeOffset]
  omega

theorem length_tokens_eq (o : Options) (xs : List Char) :
    (tokens o {} xs).length = (emitted o {} xs).length +
      ((run o {} xs).closeMode.1.length + (run o {} xs).depth) := by
  rw [tokens_eq_emitted_append, List.length_append, length_close]

theorem length_tokens_le (o : Options) (xs : List Char) :
    (tokens o {} xs).length ≤ 2 * xs.length := by
  have hemitted := length_emitted_le (o := o) {} xs
  have hlast := (run o {} xs).length_closeMode_le.2
  have hopen := depth_add_pending_le o xs
  rw [length_tokens_eq]
  omega

section Flat

variable (ho : o.nestedGroups = false) (xs : List Char)
include ho

/-- Where groups inside of groups are not scanned, at most a group and a token
in it are open at the end. -/
theorem length_close_le_of_flat : (run o {} xs).close.length ≤ 2 := by
  have hstart : ({} : State).depth ≤ 1 := Nat.zero_le 1
  have hdepth := depth_run_le_one ho hstart xs
  have hlast := (run o {} xs).length_closeMode_le.1
  rw [length_close]
  omega

theorem countP_text_tokens_le_of_flat : (tokens o {} xs).countP (·.text = "") ≤ 2 := by
  have hemitted : (emitted o {} xs).countP (·.text = "") = 0 := by
    rw [List.countP_eq_zero]
    intro t ht
    simpa using text_ne_of_mem_emitted ht
  rw [tokens_eq_emitted_append, List.countP_append, hemitted, Nat.zero_add]
  exact Nat.le_trans List.countP_le_length (length_close_le_of_flat ho xs)

theorem length_tokens_le_of_flat : (tokens o {} xs).length ≤ xs.length + 2 := by
  rw [tokens_eq_emitted_append, List.length_append]
  exact Nat.add_le_add (length_emitted_le {} xs) (length_close_le_of_flat ho xs)

theorem closeOffset_run_le_of_flat : (run o {} xs).closeOffset ≤ xs.length + 5 := by
  have hrun : (run o {} xs).Consistent := consistent_start.run xs
  have hcode := hrun.closeMode_le.1
  have hstart : ({} : State).depth ≤ 1 := Nat.zero_le 1
  have hdepth := depth_run_le_one ho hstart xs
  rw [offset_run, Nat.zero_add] at hcode
  rw [closeOffset]
  omega

end Flat

end Stream.State

/-! ## §5 Patterns -/

/-- How far the scan of a pattern goes past its end is told by the tokens, and
it is bounded by the length of the pattern, as is their number. Where groups
inside of groups are not scanned, the bounds are a few positions from the
length. -/
theorem scan_overruns (pattern : String) (o : Options) :
    Overruns pattern.length (scan pattern o).width (tokenize pattern o) ∧
    (scan pattern o).width ≤ 2 * pattern.length + 2 ∧
    (tokenize pattern o).length ≤ 2 * pattern.length ∧
    (o.nestedGroups = false →
      (tokenize pattern o).countP (·.text = "") ≤ 2 ∧
      (tokenize pattern o).length ≤ pattern.length + 2 ∧
      (scan pattern o).width ≤ pattern.length + 5) := by
  rw [width_scan, tokenize_eq_stream, Stream.tokens, ← String.length_toList]
  refine ⟨?_, ?_, ?_, ?_⟩
  · have h := Stream.State.overruns_tokens (o := o) Stream.State.consistent_start pattern.toList
    rwa [Nat.zero_add] at h
  · exact Stream.State.closeOffset_run_le o pattern.toList
  · exact Stream.State.length_tokens_le o pattern.toList
  · intro ho
    refine ⟨?_, ?_, ?_⟩
    · exact Stream.State.countP_text_tokens_le_of_flat ho pattern.toList
    · exact Stream.State.length_tokens_le_of_flat ho pattern.toList
    · exact Stream.State.closeOffset_run_le_of_flat ho pattern.toList

/-- A code that is cut short inside of a group: the scan goes as far as it can
without nested groups. -/
theorem scan_overruns_code :
    ({} : Options).nestedGroups = false ∧
      (scan "(\\u" {}).width = "(\\u".length + 5 ∧
      (tokenize "(\\u" {}).countP (·.text = "") ≤ 2 ∧
      (tokenize "(\\u" {}).length ≤ "(\\u".length + 2 ∧
      (scan "(\\u" {}).width ≤ "(\\u".length + 5 := by
  have hwidth : (scan "(\\u" {}).width = "(\\u".length + 5 := by
    rw [width_scan]
    rfl
  exact ⟨rfl, hwidth, (scan_overruns "(\\u" {}).2.2.2 rfl⟩

end RegexTokens
