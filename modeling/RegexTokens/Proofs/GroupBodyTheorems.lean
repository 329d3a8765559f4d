/-
RegexTokens.Proofs.GroupBodyTheorems — what stands inside of a group is
scanned as it is by itself.

Inside of a group a stream is one deeper than outside of it, and some
characters on. The two streams take the same steps (`Rule.inGroup`) but for
two characters: a closing parenthesis, which ends the group and is a token of
its own outside, and an opening one, if nested groups are not scanned. Which
of these a pattern holds is told by its tokens. If it holds none, all that it
gives out by itself is given out in the group too, moved on by the opening of
the group (`emitted_inGroup`), and a complete pattern leaves the group open
and nothing else, so that the next parenthesis closes it.
-/
import RegexTokens.Proofs.CompositionTheorems

namespace RegexTokens

/-! ## §1 Closing parentheses that close nothing -/

/-- Whether a class is open behind a token, if `inClass` says whether one is
open before it. -/
def Token.classAfter (inClass : Bool) (t : Token) : Bool :=
  match t.kind with
  | .rangeOpen => true
  | .rangeClose => false
  | _ => inClass

/-- Among the tokens, which start inside of a class if `inClass` says so, a
closing parenthesis stands for itself outside of all classes. -/
def HoldsStrayCloser (inClass : Bool) : List Token → Prop
  | [] => False
  | t :: ts =>
    (inClass = false ∧ t.kind = .char ∧ t.text = ")") ∨ HoldsStrayCloser (t.classAfter inClass) ts

instance decidableHoldsStrayCloser (inClass : Bool) :
    (ts : List Token) → Decidable (HoldsStrayCloser inClass ts)
  | [] => inferInstanceAs (Decidable False)
  | t :: ts =>
    have := decidableHoldsStrayCloser (t.classAfter inClass) ts
    inferInstanceAs (Decidable (_ ∨ _))

theorem holdsStrayCloser_append {inClass : Bool} {ts us : List Token} :
    HoldsStrayCloser inClass (ts ++ us) ↔
      HoldsStrayCloser inClass ts ∨ HoldsStrayCloser (ts.foldl Token.classAfter inClass) us := by
  induction ts generalizing inClass with
  | nil => simp [HoldsStrayCloser]
  | cons t ts ih =>
    rw [List.cons_append, HoldsStrayCloser, ih, HoldsStrayCloser, or_assoc]
    rfl

theorem Token.classAfter_eq_self {t : Token} (h : t.kind ∉ [.rangeOpen, .rangeClose])
    (inClass : Bool) : t.classAfter inClass = inClass := by
  unfold classAfter
  split <;> simp_all

namespace Stream

/-- The mode with `n` more characters before it. -/
def Mode.shift (n : Nat) : Mode → Mode
  | .inCode marker place code => .inCode marker (place + n) code
  | mode => mode

/-- The step inside of one more group, with `n` more characters before it. -/
def Step.inGroup (n : Nat) (t : Step) : Step where
  mode := t.mode.shift n
  depth := t.depth + 1
  tokens := t.tokens.map (Token.shift n)

namespace State

variable {o : Options}

/-! ## §2 Classes of a stream -/

/-- A class is open in the state. -/
def inClass (s : State) : Bool := s.mode == .inClass

theorem inClass_of_isPlain {mode : Mode} {x : Char} (h : IsPlain mode x) (depth offset : Nat) :
    (⟨mode, depth, offset⟩ : State).inClass = false := by
  cases mode with
  | inClass => exact h.elim
  | _ => rfl

/-- The tokens of a stream tell where its classes are. -/
theorem Rule.foldl_classAfter {s : State} {x : Char} {t : Step} (h : Rule o s x t) :
    t.tokens.foldl Token.classAfter s.inClass = (t.mode == .inClass) := by
  cases h with
  | opens hm hopen => exact inClass_of_isPlain hm _ _
  | closes hm => exact inClass_of_isPlain hm _ _
  | brace hm => exact inClass_of_isPlain hm _ _
  | backslash hm => exact inClass_of_isPlain hm _ _
  | symbol hm hclose hopen hx =>
    exact (Token.classAfter_eq_self (by simp) _).trans (inClass_of_isPlain hm _ _)
  | escaped hw => exact Token.classAfter_eq_self (by simp [step.escape]) _
  | codeEnd hw => exact Token.classAfter_eq_self (by simp [step.escape]) _
  | _ => rfl

/-! ## §3 Streams inside of a group -/

/-- The state inside of one more group, with `n` more characters before it. -/
def inGroup (n : Nat) (s : State) : State where
  mode := s.mode.shift n
  depth := s.depth + 1
  offset := s.offset + n

theorem isPlain_shift {mode : Mode} {x : Char} (h : IsPlain mode x) (n : Nat) :
    IsPlain (mode.shift n) x := by
  cases mode with
  | inCode marker place code => exact h.elim
  | _ => exact h

/-- The step inside of a group is the one outside of it, unless the character
is a parenthesis that means something else there. -/
theorem Rule.inGroup {s : State} {x : Char} {t : Step} (h : Rule o s x t)
    (hstray : ¬HoldsStrayCloser s.inClass t.tokens)
    (hflat : o.nestedGroups = false → ∀ u ∈ t.tokens, u.kind ≠ .groupOpen) (n : Nat) :
    Rule o (s.inGroup n) x (t.inGroup n) := by
  cases h with
  | opens hm hopen =>
    have hnested : o.nestedGroups = true := by
      rw [← Bool.not_eq_false]
      exact fun ho => hflat ho _ List.mem_cons_self rfl
    exact .opens (isPlain_shift hm n) (.inr hnested)
  | @symbol mode depth offset x hm hclose hopen hx =>
    -- inside of the group `)` would close it, and is no symbol there
    have hclose' : ¬(x = ')' ∧ 0 < depth + 1) := by
      rintro ⟨rfl, -⟩
      exact hstray (.inl ⟨inClass_of_isPlain hm depth offset, rfl, rfl⟩)
    have hopen' : ¬(x = '(' ∧ o.Opens (depth + 1)) := by
      rintro ⟨hx, hdepth | hnested⟩
      · exact Nat.succ_ne_zero depth hdepth
      · exact hopen ⟨hx, .inr hnested⟩
    exact .symbol (isPlain_shift hm n) hclose' hopen' hx
  | closes hm => exact .closes (isPlain_shift hm n)
  | bracket hm => exact .bracket (isPlain_shift hm n)
  | brace hm => exact .brace (isPlain_shift hm n)
  | backslash hm => exact .backslash (isPlain_shift hm n)
  | mark => exact .mark
  | lookahead => exact .lookahead
  | negLookahead => exact .negLookahead
  | member hx => exact .member hx
  | classEnd => exact .classEnd
  | bodyChar hx => exact .bodyChar hx
  | quantifierEnd => exact .quantifierEnd
  | escaped hw => exact .escaped hw
  | marker hw => exact .marker hw
  | codeChar hw => exact .codeChar hw
  | codeEnd hw => exact .codeEnd hw

/-- What characters complete outside of a group, they complete inside of it,
and both streams are in the same state but for the group. -/
theorem emitted_inGroup {s : State} {xs : List Char}
    (hstray : ¬HoldsStrayCloser s.inClass (emitted o s xs))
    (hflat : o.nestedGroups = false → ∀ u ∈ emitted o s xs, u.kind ≠ .groupOpen) (n : Nat) :
    emitted o (s.inGroup n) xs = (emitted o s xs).map (Token.shift n) ∧
      run o (s.inGroup n) xs = (run o s xs).inGroup n := by
  induction xs generalizing s with
  | nil => exact ⟨rfl, rfl⟩
  | cons x xs ih =>
    -- the tokens of the step say whether a class is open for those behind them
    have hrule := rule_step o s x
    rw [emitted, holdsStrayCloser_append, hrule.foldl_classAfter, not_or] at hstray
    obtain ⟨hstep, hrest⟩ := hstray
    have hflatStep : o.nestedGroups = false → ∀ u ∈ (s.step o x).tokens, u.kind ≠ .groupOpen :=
      fun ho u hu => hflat ho u (List.mem_append_left _ hu)
    have hflatRest : o.nestedGroups = false →
        ∀ u ∈ emitted o (s.after o x) xs, u.kind ≠ .groupOpen :=
      fun ho u hu => hflat ho u (List.mem_append_right _ hu)
    have hsame : (s.inGroup n).step o x = (s.step o x).inGroup n :=
      (hrule.inGroup hstep hflatStep n).step_eq
    have hafter : (s.inGroup n).after o x = (s.after o x).inGroup n := by
      rw [after, hsame]
      simp [Step.inGroup, State.inGroup, after, Nat.add_right_comm]
    obtain ⟨htokens, hrun⟩ := ih (s := s.after o x) hrest hflatRest
    rw [emitted, emitted, hsame, hafter, htokens, run_cons, run_cons, hafter, hrun, List.map_append]
    exact ⟨rfl, rfl⟩

/-- Characters that leave nothing open are given out inside of a group as they
are by themselves, and a closing parenthesis behind them closes the group. -/
theorem tokens_inGroup_close {xs : List Char} (hclosed : run o {} xs = ⟨.normal, 0, xs.length⟩)
    (hstray : ¬HoldsStrayCloser false (tokens o {} xs))
    (hflat : o.nestedGroups = false → ∀ u ∈ tokens o {} xs, u.kind ≠ .groupOpen) (n : Nat) :
    tokens o ⟨.normal, 1, n⟩ (xs ++ [')']) =
      (tokens o {} xs).map (Token.shift n) ++ [⟨.groupClose, ")", xs.length + n⟩] := by
  have hemitted : tokens o {} xs = emitted o {} xs := by
    rw [tokens_eq_emitted_append, hclosed]
    exact List.append_nil _
  have hstart : (⟨.normal, 1, n⟩ : State) = ({} : State).inGroup n := by
    simp [State.inGroup, Mode.shift]
  rw [hemitted] at hstray hflat
  obtain ⟨htokens, hrun⟩ := emitted_inGroup (s := {}) hstray hflat n
  have hclose : Leads o ⟨.normal, 1, xs.length + n⟩ [')'] [⟨.groupClose, ")", xs.length + n⟩]
      ⟨.normal, 0, xs.length + n + 1⟩ [] := leads_of_rule (.closes (isPlain_normal _)) []
  have hend : tokens o ((⟨.normal, 0, xs.length⟩ : State).inGroup n) [')'] =
      [⟨.groupClose, ")", xs.length + n⟩] := hclose.tokens_eq
  rw [hstart, tokens_append, htokens, hrun, hclosed, hend, hemitted]

end State

end Stream

/-! ## §4 Patterns -/

/-- A complete pattern leaves the stream where it starts, but for the
offset. -/
theorem Complete.run_eq {pattern : String} {o : Options} (h : Complete pattern o) :
    Stream.State.run o {} pattern.toList = ⟨.normal, 0, pattern.toList.length⟩ := by
  have hrun : (Stream.State.run o {} pattern.toList).Consistent :=
    Stream.State.consistent_start.run pattern.toList
  have hoffset : (Stream.State.run o {} pattern.toList).offset = pattern.toList.length := by
    rw [Stream.State.offset_run, Nat.zero_add]
  rw [Complete, width_scan, ← String.length_toList, ← hoffset, hrun.closeOffset_eq_iff] at h
  rw [h, hoffset]

/-- A complete pattern is scanned inside of a group as it is by itself, if it
holds no parenthesis that would close the group, and none that opens a group
where nested groups are not scanned. If the group is no assertion, it must not
start with a question mark. -/
theorem tokenize_group (p : String) (o : Options) (hcomplete : Complete p o)
    (hstray : ¬HoldsStrayCloser false (tokenize p o))
    (hflat : o.nestedGroups = false → ∀ t ∈ tokenize p o, t.kind ≠ .groupOpen) :
    (¬['?'] <+: p.toList →
      tokenize ("(" ++ p ++ ")") o =
        [⟨.groupOpen, "(", 0⟩] ++ (tokenize p o).map (Token.shift 1) ++
          [⟨.groupClose, ")", p.length + 1⟩]) ∧
    tokenize ("(?=" ++ p ++ ")") o =
      [⟨.groupOpen, "(", 0⟩, ⟨.lookahead, "(?=", 2⟩] ++ (tokenize p o).map (Token.shift 3) ++
        [⟨.groupClose, ")", p.length + 3⟩] ∧
    tokenize ("(?!" ++ p ++ ")") o =
      [⟨.groupOpen, "(", 0⟩, ⟨.negLookahead, "(?!)", 2⟩] ++ (tokenize p o).map (Token.shift 3) ++
        [⟨.groupClose, ")", p.length + 3⟩] := by
  have htokenize : tokenize p o = Stream.State.tokens o {} p.toList := tokenize_eq_stream p o
  rw [htokenize] at hstray hflat
  have hbody := Stream.State.tokens_inGroup_close hcomplete.run_eq hstray hflat
  rw [← htokenize, String.length_toList] at hbody
  -- the three groups differ in how they open, and all leave the same state
  have hgroup : ∀ (opening : String) (ts : List Token) (n : Nat),
      Stream.State.Leads o {} (opening.toList ++ (p.toList ++ [')'])) ts ⟨.normal, 1, n⟩
        (p.toList ++ [')']) →
      tokenize (opening ++ p ++ ")") o =
        ts ++ (tokenize p o).map (Token.shift n) ++ [⟨.groupClose, ")", p.length + n⟩] := by
    intro opening ts n hopening
    have hchars : (opening ++ p ++ ")").toList = opening.toList ++ (p.toList ++ [')']) := by simp
    rw [tokenize_eq_stream, Stream.tokens, hchars, hopening.tokens_eq, hbody n, List.append_assoc]
  refine ⟨?_, ?_, ?_⟩
  · intro hmark
    have hhead : (p.toList ++ [')']).head? ≠ some '?' := by
      cases hp : p.toList with
      | nil => simp
      | cons x xs =>
        rw [List.cons_append, List.head?_cons]
        rintro ⟨⟩
        exact hmark (by simp [hp])
    have hopen : Stream.State.Rule o {} '(' ⟨.afterOpen, 1, [⟨.groupOpen, "(", 0⟩]⟩ :=
      .opens (Stream.State.isPlain_normal _) (.inl rfl)
    exact hgroup "(" _ 1
      ((Stream.State.leads_of_rule hopen _).trans (Stream.State.leads_afterOpen hhead))
  · exact hgroup "(?=" _ 3
      ((Stream.State.leads_mark (.inl rfl) 0 _).trans (Stream.State.leads_of_rule .lookahead _))
  · exact hgroup "(?!" _ 3
      ((Stream.State.leads_mark (.inl rfl) 0 _).trans (Stream.State.leads_of_rule .negLookahead _))

/-- A body with a group that opens with a question mark, and with closing
parentheses in a class and in a code. -/
theorem tokenize_group_nested :
    Complete "(?:b)[)]\\x))" { nestedGroups := true } ∧
      ¬HoldsStrayCloser false (tokenize "(?:b)[)]\\x))" { nestedGroups := true }) ∧
      tokenize "((?:b)[)]\\x)))" { nestedGroups := true } =
        [⟨.groupOpen, "(", 0⟩] ++
          (tokenize "(?:b)[)]\\x))" { nestedGroups := true }).map (Token.shift 1) ++
          [⟨.groupClose, ")", 13⟩] := by
  have hcomplete : Complete "(?:b)[)]\\x))" { nestedGroups := true } := by
    rw [Complete, width_scan]
    rfl
  have hstray : ¬HoldsStrayCloser false (tokenize "(?:b)[)]\\x))" { nestedGroups := true }) := by
    rw [tokenize_eq_stream]
    decide
  have hgroup := tokenize_group "(?:b)[)]\\x))" { nestedGroups := true } hcomplete hstray (by simp)
  exact ⟨hcomplete, hstray, hgroup.1 (by decide)⟩

end RegexTokens
