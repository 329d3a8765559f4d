/-
RegexTokens.Proofs.ShapeTheorems — the kinds that the tokens of a pattern
have are the words of a bracket language, and each word is the kinds of some
pattern.

`IsShapeRest` is what may stand inside of open groups: the rest of the
innermost group, its closing token, and what may stand inside of the others.
A derivation keeps it from the end of the pattern to its start
(`Scans.isShapeRest`), however the pattern is formed.

The other way round `SpelledBy` says that characters scan to the kinds of a
word wherever the word may stand. Each item of a word is spelled by
characters of its own (§3), and these are put one after the other; none of
them starts with a question mark, which a group would take for its own.
-/
import RegexTokens.Proofs.StreamTheorems
import RegexTokens.Shape

namespace RegexTokens

variable {o : Options}

/-! ## §1 Inside of groups -/

/-- The kinds may stand inside of `depth` open groups, up to the end. -/
def IsShapeRest (o : Options) : Nat → List Kind → Prop
  | 0, kinds => IsShape o false kinds
  | depth + 1, kinds => ∃ content after,
    IsShape o true content ∧ IsShapeRest o depth after ∧ kinds = content ++ .groupClose :: after

/-- An item that may stand before a sequence of items may stand before the
rest of a group. -/
theorem IsShapeRest.item {depth : Nat} {item kinds : List Kind}
    (hi : ∀ {after : List Kind}, IsShape o (decide (0 < depth)) after →
      IsShape o (decide (0 < depth)) (item ++ after))
    (h : IsShapeRest o depth kinds) : IsShapeRest o depth (item ++ kinds) := by
  cases depth with
  | zero => exact hi h
  | succ depth =>
    obtain ⟨content, after, hc, ha, rfl⟩ := h
    exact ⟨item ++ content, after, hi hc, ha, by rw [List.append_assoc]⟩

theorem IsShapeRest.simple {depth : Nat} {kind : Kind} {kinds : List Kind}
    (hk : kind.isSimple = true) (h : IsShapeRest o depth kinds) :
    IsShapeRest o depth (kind :: kinds) := by
  show IsShapeRest o depth ([kind] ++ kinds)
  exact h.item fun ha => IsShape.simple hk ha

/-- A group that was opened before the rest of its content is an item before
what follows it. -/
theorem IsShapeRest.group {depth : Nat} {head kinds : List Kind} (hopen : o.Opens depth)
    (hh : head ∈ groupHeads) (h : IsShapeRest o (depth + 1) kinds) :
    IsShapeRest o depth ([.groupOpen] ++ head ++ kinds) := by
  obtain ⟨content, after, hc, ha, rfl⟩ := h
  have hg : decide (0 < depth) = false ∨ o.nestedGroups = true := by
    rcases hopen with rfl | ho
    · exact .inl rfl
    · exact .inr ho
  have := ha.item fun hrest => IsShape.group hg hh hc hrest
  simpa using this

theorem map_kind_memberTokens (chars : List Char) (offset : Nat) :
    (memberTokens chars offset).map Token.kind = List.replicate chars.length .char := by
  induction chars generalizing offset with
  | nil => rfl
  | cons x chars ih =>
    rw [memberTokens_cons, List.map_cons, ih]
    rfl

theorem Kind.isSimple_ofSymbol (x : Char) : (Kind.ofSymbol x).isSimple = true := by
  have h : ∀ k ∈ [Kind.char, .metaChar, .pipe, .anchor], k.isSimple = true := by decide
  exact h _ (Kind.ofSymbol_mem x)

theorem Kind.isSimple_ofEscaped (x : Char) : (Kind.ofEscaped x).isSimple = true := by
  have h : ∀ k ∈ [Kind.escape, .unicodeEscape, .hexEscape, .backreference],
      k.isSimple = true := by
    decide
  exact h _ (Kind.ofEscaped_mem x)

/-- What scans inside of `depth` open groups has kinds that may stand there. -/
theorem Scans.isShapeRest {depth offset : Nat} {xs : List Char} {a : Scan}
    (h : Scans o depth offset xs a) : IsShapeRest o depth (a.tokens.map Token.kind) := by
  induction h with
  | done => exact .nil
  | close hc _ ih => exact ⟨[], _, .nil, ih, rfl⟩
  | group hopen hx _ ih => exact ih.group hopen (by decide : [] ∈ groupHeads)
  | mark hopen he hn _ ih => exact ih.group hopen (by decide : [] ∈ groupHeads)
  | lookahead hopen _ ih => exact ih.group hopen (by decide : [.lookahead] ∈ groupHeads)
  | negLookahead hopen _ ih => exact ih.group hopen (by decide : [.negLookahead] ∈ groupHeads)
  | @symbol _ _ x _ _ _ _ _ _ ih => exact ih.simple (Kind.isSimple_ofSymbol x)
  | @charClass _ _ body _ _ _ _ _ _ ih =>
    have := ih.item fun ha => IsShape.charClass body.length ha
    simpa [map_kind_memberTokens] using this
  | quantifier hb hc _ ih => exact ih.simple rfl
  | @escape _ _ marker _ _ _ _ _ ih => exact ih.simple (Kind.isSimple_ofEscaped marker)
  | backslash _ ih => exact ih.simple rfl

/-! ## §2 Spelling kinds -/

/-- The characters scan to tokens of the given kinds, outside of groups or
inside of them, and whatever follows. -/
def SpelledBy (o : Options) (inGroup : Bool) (chars : List Char) (kinds : List Kind) : Prop :=
  chars.head? ≠ some '?' ∧
    ∀ (depth offset next : Nat) (xs : List Char) (a : Scan), (inGroup = false → depth = 0) →
      next = offset + chars.length → Scans o depth next xs a →
      ∃ b, Scans o depth offset (chars ++ xs) b ∧
        b.tokens.map Token.kind = kinds ++ a.tokens.map Token.kind

theorem SpelledBy.nil (o : Options) (inGroup : Bool) : SpelledBy o inGroup [] [] := by
  refine ⟨by simp, ?_⟩
  rintro depth offset _ xs a - rfl ha
  exact ⟨a, ha, rfl⟩

theorem SpelledBy.append {inGroup : Bool} {cs ds : List Char} {ks ls : List Kind}
    (hc : SpelledBy o inGroup cs ks) (hd : SpelledBy o inGroup ds ls) :
    SpelledBy o inGroup (cs ++ ds) (ks ++ ls) := by
  refine ⟨?_, ?_⟩
  · rw [List.head?_append]
    cases h : cs.head? with
    | none => simpa using hd.1
    | some x => simpa [h] using hc.1
  · intro depth offset next xs a hdepth hnext ha
    have hnext' : next = offset + cs.length + ds.length := by
      rw [hnext, List.length_append, Nat.add_assoc]
    obtain ⟨b, hb, hkb⟩ := hd.2 _ _ _ _ _ hdepth hnext' ha
    obtain ⟨e, he, hke⟩ := hc.2 _ _ _ _ _ hdepth rfl hb
    refine ⟨e, by rwa [List.append_assoc], ?_⟩
    rw [hke, hkb, List.append_assoc]

/-- Characters that a simple token is made of. -/
def Kind.spelling : Kind → List Char
  | .char => ['a']
  | .metaChar => ['*']
  | .pipe => ['|']
  | .anchor => ['^']
  | .quantifier => ['{', '}']
  | .escape => ['\\', '.']
  | .unicodeEscape => ['\\', 'u', '0', '0', '0', '0']
  | .hexEscape => ['\\', 'x', '0', '0']
  | .backreference => ['\\', '1']
  | _ => []

theorem SpelledBy.simple (o : Options) (inGroup : Bool) {kind : Kind} (hk : kind.isSimple = true) :
    SpelledBy o inGroup kind.spelling [kind] := by
  refine ⟨by cases kind <;> simp [Kind.spelling], ?_⟩
  rintro depth offset _ xs a - rfl ha
  cases kind with
  | char => exact ⟨_, .symbol (by simp) (by simp) (by decide) ha, rfl⟩
  | metaChar => exact ⟨_, .symbol (by simp) (by simp) (by decide) ha, rfl⟩
  | pipe => exact ⟨_, .symbol (by simp) (by simp) (by decide) ha, rfl⟩
  | anchor => exact ⟨_, .symbol (by simp) (by simp) (by decide) ha, rfl⟩
  | quantifier => exact ⟨_, .quantifier List.not_mem_nil (.inl rfl) ha, rfl⟩
  | escape => exact ⟨_, @Scans.escape o depth offset '.' [] xs a (.inl rfl) ha, rfl⟩
  | unicodeEscape =>
    exact ⟨_, @Scans.escape o depth offset 'u' ['0', '0', '0', '0'] xs a (.inl rfl) ha, rfl⟩
  | hexEscape => exact ⟨_, @Scans.escape o depth offset 'x' ['0', '0'] xs a (.inl rfl) ha, rfl⟩
  | backreference => exact ⟨_, @Scans.escape o depth offset '1' [] xs a (.inl rfl) ha, rfl⟩
  | _ => simp [Kind.isSimple] at hk

/-- A class of plain members. -/
theorem SpelledBy.charClass (o : Options) (inGroup : Bool) (members : Nat) :
    SpelledBy o inGroup ('[' :: (List.replicate members 'a' ++ [']']))
      ([.rangeOpen] ++ List.replicate members .char ++ [.rangeClose]) := by
  refine ⟨by simp, ?_⟩
  rintro depth offset next xs a - hnext ha
  have hb : ']' ∉ List.replicate members 'a' := by simp
  have hnext' : next = offset + (List.replicate members 'a').length + 2 := by
    simp at hnext ⊢
    omega
  rw [hnext'] at ha
  rw [List.cons_append, List.append_assoc]
  exact ⟨_, .charClass hb (.inl rfl) ha, by simp [map_kind_memberTokens]⟩

/-- What stands between a group's parenthesis and its content. -/
def groupMark : List Kind → List Char
  | [.lookahead] => ['?', '=']
  | [.negLookahead] => ['?', '!']
  | _ => []

theorem SpelledBy.group {inGroup : Bool} {head content : List Kind} {chars : List Char}
    (hopen : inGroup = false ∨ o.nestedGroups = true) (hh : head ∈ groupHeads)
    (hc : SpelledBy o true chars content) :
    SpelledBy o inGroup ('(' :: (groupMark head ++ (chars ++ [')'])))
      ([.groupOpen] ++ head ++ content ++ [.groupClose]) := by
  refine ⟨by simp, ?_⟩
  rintro depth offset next xs a hdepth hnext ha
  have ho : o.Opens depth := hopen.imp hdepth id
  have hclose : Scans o (depth + 1)
      (offset + 1 + (groupMark head).length + chars.length) (')' :: xs)
      (.closer .groupClose [')'] (offset + 1 + (groupMark head).length + chars.length) ++ a) := by
    refine .close (.inl rfl) ?_
    simp at hnext
    have : offset + 1 + (groupMark head).length + chars.length + 1 = next := by omega
    rwa [this]
  obtain ⟨b, hb, hkb⟩ := hc.2 _ _ _ _ _ (by simp) rfl hclose
  have hx : (chars ++ ')' :: xs).head? ≠ some '?' := by
    have := hc.1
    cases chars <;> simp_all
  rw [List.cons_append, List.append_assoc, List.append_assoc]
  simp only [groupHeads, List.mem_cons, List.not_mem_nil, or_false] at hh
  rcases hh with rfl | rfl | rfl
  · exact ⟨_, .group ho hx hb, by simp [hkb]⟩
  · exact ⟨_, .lookahead ho hb, by simp [hkb]⟩
  · exact ⟨_, .negLookahead ho hb, by simp [hkb]⟩

/-! ## §3 Words and patterns -/

/-- Each word has a spelling. -/
theorem IsShape.exists_spelledBy {inGroup : Bool} {kinds : List Kind}
    (h : IsShape o inGroup kinds) : ∃ chars, SpelledBy o inGroup chars kinds := by
  induction h with
  | nil => exact ⟨[], .nil o _⟩
  | simple hk _ ih =>
    obtain ⟨chars, hc⟩ := ih
    exact ⟨_, (SpelledBy.simple o _ hk).append hc⟩
  | charClass members _ ih =>
    obtain ⟨chars, hc⟩ := ih
    exact ⟨_, (SpelledBy.charClass o _ members).append hc⟩
  | group hopen hh _ _ ihc iha =>
    obtain ⟨cs, hcs⟩ := ihc
    obtain ⟨ds, hds⟩ := iha
    exact ⟨_, (SpelledBy.group hopen hh hcs).append hds⟩

/-- The kinds of the tokens of patterns are the words of the language, with
groups in groups or without. -/
theorem isShape_iff_exists_pattern (o : Options) (kinds : List Kind) :
    IsShape o false kinds ↔ ∃ pattern, (tokenize pattern o).map Token.kind = kinds := by
  constructor
  · intro h
    obtain ⟨chars, hc⟩ := h.exists_spelledBy
    obtain ⟨a, ha, hk⟩ := hc.2 0 0 _ [] .empty (fun _ => rfl) rfl .done
    refine ⟨String.ofList chars, ?_⟩
    rw [List.append_nil, ← String.toList_ofList (l := chars)] at ha
    rw [ha.tokenize_eq, hk]
    exact List.append_nil kinds
  · rintro ⟨pattern, rfl⟩
    exact (scans_scan pattern o).isShapeRest

end RegexTokens
