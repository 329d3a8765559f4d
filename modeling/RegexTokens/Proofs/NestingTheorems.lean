/-
RegexTokens.Proofs.NestingTheorems — what changes if groups inside of groups
are scanned as groups.

With nested groups and without, the streams of a pattern have different
depths, and behind a parenthesis one of them may hold a question mark back
that the other gives out. But all that a state knows besides groups
(`State.ungrouped`) takes the same steps in both: but for the tokens about
groups a stream gives out what it would from there
(`withoutGrouping_tokens`).

The two streams take the very same steps up to a group that opens inside of
another. There one of them gives out a token that the other cannot
(`not_holdsInnerGroup_tokens`), and if it never comes to this, they are the
same (`tokens_eq_of_not_holdsInnerGroup`).
-/
import RegexTokens.Proofs.StreamTheorems

namespace RegexTokens

/-! ## §1 Tokens about groups -/

/-- The token is about groups, or it is a character that may be read as a part
of one: a parenthesis, or what follows an opening parenthesis. -/
def Token.isGrouping (t : Token) : Bool :=
  t.isOneOf [.groupOpen, .groupClose, .lookahead, .negLookahead] ||
    (t.kind == .char && ["(", ")", "=", "!"].contains t.text) ||
    (t.kind == .metaChar && t.text == "?")

/-- The tokens that are not about groups. -/
def withoutGrouping (ts : List Token) : List Token := ts.filter fun t => !t.isGrouping

theorem withoutGrouping_append (ts us : List Token) :
    withoutGrouping (ts ++ us) = withoutGrouping ts ++ withoutGrouping us :=
  List.filter_append ts us

theorem withoutGrouping_eq_nil {ts : List Token} (h : ∀ t ∈ ts, t.isGrouping = true) :
    withoutGrouping ts = [] := by
  rw [withoutGrouping, List.filter_eq_nil_iff]
  intro t ht
  simp [h t ht]

theorem withoutGrouping_singleton {t : Token} (h : t.isGrouping = true) :
    withoutGrouping [t] = [] :=
  withoutGrouping_eq_nil fun _ hu => List.mem_singleton.1 hu ▸ h

/-- The characters of groups are about groups also where they are tokens by
themselves. -/
theorem Token.isGrouping_symbol {x : Char} (hx : x ∈ ['(', ')', '?', '=', '!']) (position : Nat) :
    (⟨.ofSymbol x, String.singleton x, position⟩ : Token).isGrouping = true := by
  simp only [List.mem_cons, List.not_mem_nil, or_false] at hx
  rcases hx with rfl | rfl | rfl | rfl | rfl <;> rfl

theorem Token.isGrouping_of_kind {t : Token}
    (ht : t.kind ∈ [.groupOpen, .groupClose, .lookahead, .negLookahead]) :
    t.isGrouping = true := by
  rw [isGrouping, isOneOf_iff.2 ht]
  rfl

namespace Stream.State

variable {o : Options}

/-! ## §2 States without groups -/

/-- The mode without what it says about the opening of a group. -/
def ungroupedMode : Mode → Mode
  | .afterOpen | .afterMark => .normal
  | mode => mode

/-- All that a state knows besides groups. -/
def ungrouped (s : State) : State := ⟨ungroupedMode s.mode, 0, s.offset⟩

/-- The steps differ in groups only. -/
structure SameStep (t u : Step) : Prop where
  mode_eq : ungroupedMode t.mode = ungroupedMode u.mode
  tokens_eq : withoutGrouping t.tokens = withoutGrouping u.tokens

/-- Steps with one token about groups each differ in groups only, if they stay
outside of all constructs. -/
theorem sameStep_of_isGrouping {m m' : Mode} {d d' : Nat} {t u : Token}
    (hm : ungroupedMode m = ungroupedMode m') (ht : t.isGrouping = true)
    (hu : u.isGrouping = true) : SameStep ⟨m, d, [t]⟩ ⟨m', d', [u]⟩ := by
  refine ⟨hm, ?_⟩
  rw [withoutGrouping_singleton ht, withoutGrouping_singleton hu]

theorem isPlain_ungroupedMode {mode : Mode} {x : Char} (h : IsPlain mode x) :
    IsPlain (ungroupedMode mode) x := by
  cases mode with
  | normal => exact h
  | afterOpen => exact isPlain_normal x
  | afterMark => exact isPlain_normal x
  | _ => exact h.elim

theorem sameStep_of_rule {s : State} {x : Char} {t u : Step} (h : Rule o s.ungrouped x u)
    (hsame : SameStep t u) : SameStep t (s.ungrouped.step o x) := by
  rw [h.step_eq]
  exact hsame

/-- Each step is the step without groups, but for groups. -/
theorem Rule.sameStep {s : State} {x : Char} {t : Step} (h : Rule o s x t) :
    SameStep t (s.ungrouped.step {} x) := by
  cases h with
  | opens hm hopen =>
    refine sameStep_of_rule (.opens (isPlain_ungroupedMode hm) (.inl rfl)) ?_
    exact sameStep_of_isGrouping rfl (Token.isGrouping_of_kind (by simp))
      (Token.isGrouping_of_kind (by simp))
  | closes hm =>
    -- without groups the parenthesis is a character
    refine sameStep_of_rule (.symbol (isPlain_ungroupedMode hm) (by simp) (by simp) (by simp)) ?_
    exact sameStep_of_isGrouping rfl (Token.isGrouping_of_kind (by simp))
      (Token.isGrouping_symbol (by simp) _)
  | @symbol mode depth offset x hm hclose hopen hx =>
    by_cases hpar : x = '('
    · -- a parenthesis that opens no group here opens one without groups
      subst hpar
      refine sameStep_of_rule (.opens (isPlain_ungroupedMode hm) (.inl rfl)) ?_
      exact sameStep_of_isGrouping rfl (Token.isGrouping_symbol (by simp) _)
        (Token.isGrouping_of_kind (by simp))
    · exact sameStep_of_rule
        (.symbol (isPlain_ungroupedMode hm) (by simp) (fun h => hpar h.1) hx) ⟨rfl, rfl⟩
  | mark =>
    refine sameStep_of_rule (.symbol (isPlain_normal _) (by simp) (by simp) (by simp)) ⟨rfl, ?_⟩
    exact (withoutGrouping_singleton (Token.isGrouping_symbol (by simp) _)).symm
  | lookahead =>
    refine sameStep_of_rule (.symbol (isPlain_normal _) (by simp) (by simp) (by simp)) ?_
    exact sameStep_of_isGrouping rfl (Token.isGrouping_of_kind (by simp))
      (Token.isGrouping_symbol (by simp) _)
  | negLookahead =>
    refine sameStep_of_rule (.symbol (isPlain_normal _) (by simp) (by simp) (by simp)) ?_
    exact sameStep_of_isGrouping rfl (Token.isGrouping_of_kind (by simp))
      (Token.isGrouping_symbol (by simp) _)
  | bracket hm => exact sameStep_of_rule (.bracket (isPlain_ungroupedMode hm)) ⟨rfl, rfl⟩
  | brace hm => exact sameStep_of_rule (.brace (isPlain_ungroupedMode hm)) ⟨rfl, rfl⟩
  | backslash hm => exact sameStep_of_rule (.backslash (isPlain_ungroupedMode hm)) ⟨rfl, rfl⟩
  | member hx => exact sameStep_of_rule (.member hx) ⟨rfl, rfl⟩
  | classEnd => exact sameStep_of_rule .classEnd ⟨rfl, rfl⟩
  | bodyChar hx => exact sameStep_of_rule (.bodyChar hx) ⟨rfl, rfl⟩
  | quantifierEnd => exact sameStep_of_rule .quantifierEnd ⟨rfl, rfl⟩
  | escaped hw => exact sameStep_of_rule (.escaped hw) ⟨rfl, rfl⟩
  | marker hw => exact sameStep_of_rule (.marker hw) ⟨rfl, rfl⟩
  | codeChar hw => exact sameStep_of_rule (.codeChar hw) ⟨rfl, rfl⟩
  | codeEnd hw => exact sameStep_of_rule (.codeEnd hw) ⟨rfl, rfl⟩

theorem closeMode_ungrouped (s : State) : s.ungrouped.closeMode = s.closeMode := by
  obtain ⟨mode, depth, offset⟩ := s
  cases mode with
  | _ => rfl

/-- At the end only closing tokens of groups differ. -/
theorem withoutGrouping_close (s : State) :
    withoutGrouping s.close = withoutGrouping s.closeMode.1 := by
  have hclosers : withoutGrouping ((List.range' s.closeMode.2 s.depth).map
      fun position => ⟨.groupClose, "", position⟩) = [] := by
    refine withoutGrouping_eq_nil ?_
    intro t ht
    obtain ⟨position, -, rfl⟩ := List.mem_map.1 ht
    exact Token.isGrouping_of_kind (by simp)
  rw [close, withoutGrouping_append, hclosers, List.append_nil]

/-- But for groups, a stream gives out what it does from the state without
groups. -/
theorem withoutGrouping_tokens (o : Options) (s : State) (xs : List Char) :
    withoutGrouping (tokens o s xs) = withoutGrouping (tokens {} s.ungrouped xs) := by
  induction xs generalizing o s with
  | nil =>
    rw [tokens_nil, tokens_nil, withoutGrouping_close, withoutGrouping_close, closeMode_ungrouped]
  | cons x xs ih =>
    have hsame : SameStep (s.step o x) (s.ungrouped.step {} x) := (rule_step o s x).sameStep
    have hafter : (s.after o x).ungrouped = (s.ungrouped.after {} x).ungrouped := by
      rw [ungrouped, ungrouped, State.mk.injEq]
      exact ⟨hsame.mode_eq, rfl, rfl⟩
    rw [tokens_cons, tokens_cons, withoutGrouping_append, withoutGrouping_append,
      hsame.tokens_eq, ih o, ih {} (s.ungrouped.after {} x), hafter]

end Stream.State

/-! ## §3 Groups inside of groups -/

/-- The number of open groups behind a token, if `depth` are open before it. -/
def Token.depthAfter (depth : Nat) (t : Token) : Nat :=
  match t.kind with
  | .groupOpen => depth + 1
  | .groupClose => depth - 1
  | _ => depth

/-- Among the tokens, which stand inside of `depth` open groups, a group opens
inside of another. -/
def HoldsInnerGroup (depth : Nat) : List Token → Prop
  | [] => False
  | t :: ts => (t.kind = .groupOpen ∧ 0 < depth) ∨ HoldsInnerGroup (t.depthAfter depth) ts

theorem Token.depthAfter_eq_self {t : Token} (h : t.kind ∉ [.groupOpen, .groupClose])
    (depth : Nat) : t.depthAfter depth = depth := by
  unfold depthAfter
  split <;> simp_all

theorem holdsInnerGroup_append {depth : Nat} {ts us : List Token} :
    HoldsInnerGroup depth (ts ++ us) ↔
      HoldsInnerGroup depth ts ∨ HoldsInnerGroup (ts.foldl Token.depthAfter depth) us := by
  induction ts generalizing depth with
  | nil => simp [HoldsInnerGroup]
  | cons t ts ih => rw [List.cons_append, HoldsInnerGroup, ih, HoldsInnerGroup, or_assoc]; rfl

theorem not_holdsInnerGroup {depth : Nat} {ts : List Token} (h : ∀ t ∈ ts, t.kind ≠ .groupOpen) :
    ¬HoldsInnerGroup depth ts := by
  induction ts generalizing depth with
  | nil => exact id
  | cons t ts ih =>
    rintro (⟨hk, -⟩ | hts)
    · exact h t List.mem_cons_self hk
    · exact ih (fun u hu => h u (List.mem_cons_of_mem _ hu)) hts

namespace Stream.State

variable {o : Options}

/-- The depth of a stream is counted by its tokens. -/
theorem Rule.foldl_depthAfter {s : State} {x : Char} {t : Step} (h : Rule o s x t) :
    t.tokens.foldl Token.depthAfter s.depth = t.depth := by
  cases h with
  | symbol _ _ _ _ => exact Token.depthAfter_eq_self (by simp) _
  | escaped _ => exact Token.depthAfter_eq_self (by simp [step.escape]) _
  | codeEnd _ => exact Token.depthAfter_eq_self (by simp [step.escape]) _
  | _ => rfl

/-- Without nested groups no step opens a group inside of another. -/
theorem Rule.not_holdsInnerGroup {s : State} {x : Char} {t : Step} (h : Rule o s x t)
    (ho : o.nestedGroups = false) : ¬HoldsInnerGroup s.depth t.tokens := by
  cases h with
  | opens hm hopen =>
    rcases hopen with rfl | hopen
    · simp [HoldsInnerGroup]
    · rw [ho] at hopen
      exact absurd hopen Bool.false_ne_true
  | symbol _ _ _ _ => exact RegexTokens.not_holdsInnerGroup (by simp)
  | escaped _ => exact RegexTokens.not_holdsInnerGroup (by simp [step.escape])
  | codeEnd _ => exact RegexTokens.not_holdsInnerGroup (by simp [step.escape])
  | _ => exact RegexTokens.not_holdsInnerGroup (by simp [step.quantifier])

/-- A step that opens no group inside of another is the same with nested groups
and without. -/
theorem Rule.of_not_holdsInnerGroup {s : State} {x : Char} {t : Step} (h : Rule o s x t)
    (ho : o.nestedGroups = true) (ht : ¬HoldsInnerGroup s.depth t.tokens) (o' : Options) :
    Rule o' s x t := by
  cases h with
  | @opens mode depth offset hm hopen =>
    have hdepth : depth = 0 := by
      refine Nat.eq_zero_of_not_pos fun hpos => ht (.inl ⟨rfl, hpos⟩)
    exact .opens hm (.inl hdepth)
  | symbol hm hclose hopen hx => exact .symbol hm hclose (fun h => hopen ⟨h.1, .inr ho⟩) hx
  | closes hm => exact .closes hm
  | bracket hm => exact .bracket hm
  | brace hm => exact .brace hm
  | backslash hm => exact .backslash hm
  | mark => exact .mark
  | lookahead => exact .lookahead
  | negLookahead => exact .negLookahead
  | member hx => exact .member hx
  | classEnd => exact .classEnd
  | bodyChar hx => exact .bodyChar hx
  | quantifierEnd => exact .quantifierEnd
  | escaped hw => exact .escaped hw
  | marker hw => exact .marker hw
  | codeChar hw => exact .codeChar hw
  | codeEnd hw => exact .codeEnd hw

theorem not_holdsInnerGroup_close (s : State) (depth : Nat) : ¬HoldsInnerGroup depth s.close := by
  refine not_holdsInnerGroup ?_
  intro t ht
  rcases List.mem_append.1 ht with ht | ht
  · obtain ⟨mode, depth, offset⟩ := s
    cases mode <;> simp_all [step.quantifier, step.escape]
  · obtain ⟨position, -, rfl⟩ := List.mem_map.1 ht
    simp

/-- Without nested groups a stream gives out no group inside of another. -/
theorem not_holdsInnerGroup_tokens (ho : o.nestedGroups = false) (s : State) (xs : List Char) :
    ¬HoldsInnerGroup s.depth (tokens o s xs) := by
  induction xs generalizing s with
  | nil => exact not_holdsInnerGroup_close s s.depth
  | cons x xs ih =>
    have hrule := rule_step o s x
    rw [tokens_cons, holdsInnerGroup_append, hrule.foldl_depthAfter]
    rintro (hstep | hrest)
    · exact hrule.not_holdsInnerGroup ho hstep
    · exact ih (s.after o x) hrest

/-- A stream with nested groups that gives out no group inside of another is
the same without them. -/
theorem tokens_eq_of_not_holdsInnerGroup (ho : o.nestedGroups = true) {s : State} {xs : List Char}
    (h : ¬HoldsInnerGroup s.depth (tokens o s xs)) (o' : Options) :
    tokens o' s xs = tokens o s xs := by
  induction xs generalizing s with
  | nil => rfl
  | cons x xs ih =>
    have hrule := rule_step o s x
    rw [tokens_cons, holdsInnerGroup_append, hrule.foldl_depthAfter, not_or] at h
    obtain ⟨hstep, hrest⟩ := h
    have hstep' : s.step o' x = s.step o x :=
      (hrule.of_not_holdsInnerGroup ho hstep o').step_eq
    have hafter : s.after o' x = s.after o x := by rw [after, after, hstep']
    rw [tokens_cons, tokens_cons, hstep', hafter, ih hrest]

end Stream.State

/-! ## §4 Patterns -/

/-- But for groups, the options make no difference. -/
theorem withoutGrouping_tokenize (pattern : String) (o o' : Options) :
    withoutGrouping (tokenize pattern o) = withoutGrouping (tokenize pattern o') := by
  rw [tokenize_eq_stream, tokenize_eq_stream, Stream.tokens, Stream.tokens,
    Stream.State.withoutGrouping_tokens o, Stream.State.withoutGrouping_tokens o']

theorem not_holdsInnerGroup_tokenize {o : Options} (ho : o.nestedGroups = false)
    (pattern : String) : ¬HoldsInnerGroup 0 (tokenize pattern o) := by
  rw [tokenize_eq_stream]
  exact Stream.State.not_holdsInnerGroup_tokens ho {} pattern.toList

theorem tokenize_eq_of_not_holdsInnerGroup {o : Options} (ho : o.nestedGroups = true)
    {pattern : String} (h : ¬HoldsInnerGroup 0 (tokenize pattern o)) (o' : Options) :
    tokenize pattern o' = tokenize pattern o := by
  rw [tokenize_eq_stream] at h
  rw [tokenize_eq_stream, tokenize_eq_stream]
  exact Stream.State.tokens_eq_of_not_holdsInnerGroup ho h o'

/-- Whether groups inside of groups are scanned as groups makes no difference
but to tokens about groups, and none at all exactly if no group opens inside
of another. -/
theorem nestedGroups_changes_grouping (pattern : String) (o : Options) :
    withoutGrouping (tokenize pattern (o.withNestedGroups false)) =
        withoutGrouping (tokenize pattern (o.withNestedGroups true)) ∧
      (tokenize pattern (o.withNestedGroups false) = tokenize pattern (o.withNestedGroups true) ↔
        ¬HoldsInnerGroup 0 (tokenize pattern (o.withNestedGroups true))) := by
  refine ⟨withoutGrouping_tokenize pattern _ _, ?_, ?_⟩
  · intro heq
    rw [← heq]
    exact not_holdsInnerGroup_tokenize rfl pattern
  · intro hinner
    exact tokenize_eq_of_not_holdsInnerGroup rfl hinner _

end RegexTokens
