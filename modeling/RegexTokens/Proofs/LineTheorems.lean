/-
RegexTokens.Proofs.LineTheorems — the lines of a pattern's tokens can be read
back.

A line gives a token's text as it is, so a text with a line feed in it may
look like the end of one line and the start of another. Still no two patterns
with different tokens have the same lines. Position and kind come first and
end at a tab, so only the end of the text is in doubt. A quantifier ends at
its first closing brace. All other texts have at most as many characters as an
escape with its code, and the next line starts with more than that before its
own line feed (`not_mem_take_renderLines`): a longer text that held the line
feed of a shorter one would have to hold the one of the next line as well.
-/
import RegexTokens.Proofs.Delimited
import RegexTokens.Proofs.Derivation
import RegexTokens.Render.Display

namespace RegexTokens

/-! ## §1 Lines as characters -/

theorem toList_renderLines_cons (t : Token) (ts : List Token) :
    (renderLines (t :: ts)).toList =
      Nat.toDigits 10 t.position ++ '\t' :: (t.kind.name.toList ++
        '\t' :: (t.text.toList ++ '\n' :: (renderLines ts).toList)) := by
  simp [Token.line]

/-- The most characters a text has that is no quantifier. -/
def textLimit : Nat := 6

/-- So many characters at the start of lines are not enough for a line. -/
theorem not_mem_take_renderLines (ts : List Token) :
    '\n' ∉ (renderLines ts).toList.take textLimit := by
  cases ts with
  | nil => simp
  | cons t ts =>
    have hname : 4 ≤ t.kind.name.toList.length := by
      have hall : ∀ k ∈ Kind.all, 4 ≤ k.name.toList.length := by decide
      exact hall _ (Kind.mem_all _)
    have hdigits : 0 < (Nat.toDigits 10 t.position).length :=
      List.length_pos_iff.2 Nat.toDigits_ne_nil
    have hstart : textLimit ≤ (Nat.toDigits 10 t.position ++ '\t' :: t.kind.name.toList).length := by
      rw [List.length_append, List.length_cons, textLimit]
      omega
    rw [toList_renderLines_cons, ← List.cons_append, ← List.append_assoc,
      List.take_append_of_le_length hstart]
    intro hmem
    have hmem' := List.mem_of_mem_take hmem
    rw [List.mem_append, List.mem_cons] at hmem'
    rcases hmem' with hmem' | hmem' | hmem'
    · exact not_mem_toDigits (by decide) _ hmem'
    · exact absurd hmem' (by decide)
    · exact Kind.not_mem_name (by decide) _ hmem'

/-! ## §2 Where a text ends -/

/-- A text that a line feed and more lines follow is not the start of a longer
one that does not exceed the limit. -/
theorem not_append_eq_append {u w : List Char} {ts us : List Token} (hw : w ≠ [])
    (hlength : (u ++ w).length ≤ textLimit) :
    '\n' :: (renderLines ts).toList ≠ w ++ '\n' :: (renderLines us).toList := by
  intro h
  obtain ⟨x, w, rfl⟩ := List.exists_cons_of_ne_nil hw
  rw [List.cons_append, List.cons.injEq] at h
  obtain ⟨-, h⟩ := h
  -- the line feed behind the longer text is one of the next line
  rw [List.length_append, List.length_cons] at hlength
  have hmem : '\n' ∈ (renderLines ts).toList.take textLimit := by
    rw [h, List.take_append, List.mem_append]
    refine .inr ?_
    obtain ⟨more, hmore⟩ : ∃ more, textLimit - w.length = more + 1 :=
      ⟨textLimit - w.length - 1, by omega⟩
    rw [hmore, List.take_succ_cons]
    exact List.mem_cons_self
  exact not_mem_take_renderLines ts hmem

/-- Texts within the limit are told apart before a line feed and more lines. -/
theorem append_renderLines_inj {u v : List Char} {ts us : List Token} (hu : u.length ≤ textLimit)
    (hv : v.length ≤ textLimit)
    (h : u ++ '\n' :: (renderLines ts).toList = v ++ '\n' :: (renderLines us).toList) :
    u = v ∧ (renderLines ts).toList = (renderLines us).toList := by
  rcases List.append_eq_append_iff.1 h with ⟨w, rfl, hw⟩ | ⟨w, rfl, hw⟩
  · by_cases hnil : w = []
    · subst hnil
      exact ⟨(List.append_nil u).symm, (List.cons.inj hw).2⟩
    · exact absurd hw (not_append_eq_append hnil hv)
  · by_cases hnil : w = []
    · subst hnil
      exact ⟨List.append_nil v, ((List.cons.inj hw).2).symm⟩
    · exact absurd hw (not_append_eq_append hnil hu)

/-- The text of the token is a quantifier with one closing brace, at its end,
or does not exceed the limit. -/
def Token.FitsLine (t : Token) : Prop :=
  match t.kind with
  | .quantifier => ∃ body, '}' ∉ body ∧ t.text.toList = '{' :: body ++ ['}']
  | _ => t.text.length ≤ textLimit

theorem Token.fitsLine_quantifier {body : List Char} (hb : '}' ∉ body) (position : Nat) :
    (⟨.quantifier, String.ofList ('{' :: body ++ ['}']), position⟩ : Token).FitsLine :=
  ⟨body, hb, String.toList_ofList⟩

theorem Token.fitsLine_of_length {kind : Kind} {text : String} (hk : kind ≠ .quantifier)
    (hlength : text.length ≤ textLimit) (position : Nat) :
    (⟨kind, text, position⟩ : Token).FitsLine := by
  unfold FitsLine
  dsimp only
  split
  · exact absurd rfl hk
  · exact hlength

/-- Texts of the same kind are told apart before a line feed and more lines. -/
theorem Token.FitsLine.append_inj {t u : Token} {ts us : List Token} (ht : t.FitsLine)
    (hu : u.FitsLine) (hkind : t.kind = u.kind)
    (h : t.text.toList ++ '\n' :: (renderLines ts).toList =
      u.text.toList ++ '\n' :: (renderLines us).toList) :
    t.text = u.text ∧ renderLines ts = renderLines us := by
  unfold FitsLine at ht hu
  rw [← hkind] at hu
  rw [← String.toList_inj, ← String.toList_inj]
  cases hk : t.kind with
  | quantifier =>
    rw [hk] at ht hu
    obtain ⟨body, hbody, ht⟩ := ht
    obtain ⟨body', hbody', hu⟩ := hu
    rw [ht, hu, List.append_assoc, List.append_assoc, List.singleton_append,
      List.cons_append, List.cons_append, List.cons.injEq] at h
    obtain ⟨rfl, hrest⟩ := append_cons_inj hbody hbody' h.2
    exact ⟨ht.trans hu.symm, (List.cons.inj hrest).2⟩
  | _ =>
    rw [hk, ← String.length_toList] at ht hu
    exact append_renderLines_inj ht hu h

/-- Tokens whose texts end in their lines are told apart by their lines. -/
theorem renderLines_inj {ts us : List Token} (hts : ∀ t ∈ ts, t.FitsLine)
    (hus : ∀ t ∈ us, t.FitsLine) (h : renderLines ts = renderLines us) : ts = us := by
  induction ts generalizing us with
  | nil =>
    cases us with
    | nil => rfl
    | cons u us =>
      have hlist := congrArg String.toList h
      rw [toList_renderLines_cons] at hlist
      simp at hlist
  | cons t ts ih =>
    cases us with
    | nil =>
      have hlist := congrArg String.toList h
      rw [toList_renderLines_cons] at hlist
      simp at hlist
    | cons u us =>
      have hlist := congrArg String.toList h
      rw [toList_renderLines_cons, toList_renderLines_cons] at hlist
      obtain ⟨hdigits, hlist⟩ := append_cons_inj (not_mem_toDigits (by decide) _)
        (not_mem_toDigits (by decide) _) hlist
      obtain ⟨hname, hlist⟩ := append_cons_inj (Kind.not_mem_name (by decide) _)
        (Kind.not_mem_name (by decide) _) hlist
      have hposition : t.position = u.position := toDigits_inj (by decide) (by decide) hdigits
      have hkind : t.kind = u.kind := Kind.name_injective (String.toList_inj.1 hname)
      obtain ⟨htext, hrest⟩ := (hts t List.mem_cons_self).append_inj (hus u List.mem_cons_self)
        hkind hlist
      have htoken : t = u := by
        obtain ⟨kind, text, position⟩ := t
        obtain ⟨kind', text', position'⟩ := u
        rw [Token.mk.injEq]
        exact ⟨hkind, htext, hposition⟩
      have htail : ts = us := ih (fun t ht => hts t (List.mem_cons_of_mem _ ht))
        (fun u hu => hus u (List.mem_cons_of_mem _ hu)) hrest
      rw [htoken, htail]

/-- Without a limit to the texts a line may stand in another. -/
example : renderLines [⟨.char, "a\n1\tChar\tb", 0⟩] =
    renderLines [⟨.char, "a", 0⟩, ⟨.char, "b", 1⟩] := by decide

/-! ## §3 The texts of a pattern -/

/-- The texts of all tokens of the scan end in their lines. -/
def Scan.FitsLines (a : Scan) : Prop := ∀ t ∈ a.tokens, t.FitsLine

theorem Scan.FitsLines.append {a b : Scan} (ha : a.FitsLines) (hb : b.FitsLines) :
    (a ++ b).FitsLines :=
  List.forall_mem_append.2 ⟨ha, hb⟩

theorem Scan.fitsLines_token {t : Token} (ht : t.FitsLine) {events : List Event} {width : Nat} :
    (⟨[t], events, width⟩ : Scan).FitsLines :=
  List.forall_mem_singleton.2 ht

theorem Scan.fitsLines_pair {t u : Token} (ht : t.FitsLine) (hu : u.FitsLine)
    {events : List Event} {width : Nat} : (⟨[t, u], events, width⟩ : Scan).FitsLines :=
  List.forall_mem_cons.2 ⟨ht, List.forall_mem_singleton.2 hu⟩

theorem Token.fitsLine_singleton {kind : Kind} (hk : kind ≠ .quantifier) (x : Char)
    (position : Nat) : (⟨kind, String.singleton x, position⟩ : Token).FitsLine := by
  refine fitsLine_of_length hk ?_ position
  rw [String.length_singleton]
  decide

theorem Scan.fitsLines_closer {kind : Kind} (hk : kind ≠ .quantifier) {x : Char}
    {close xs : List Char} (hc : ClosedBy x close xs) (offset : Nat) :
    (closer kind close offset).FitsLines := by
  refine fitsLines_token (Token.fitsLine_of_length hk ?_ offset)
  rw [String.length_ofList]
  rcases hc with rfl | ⟨rfl, -⟩
  · rw [List.length_singleton]
    decide
  · exact Nat.zero_le _

theorem Scan.fitsLines_bracket (body : List Char) (offset : Nat) {events : List Event}
    {width : Nat} :
    (⟨⟨.rangeOpen, "[", offset⟩ :: memberTokens body (offset + 1), events, width⟩ :
      Scan).FitsLines := by
  refine List.forall_mem_cons.2 ⟨Token.fitsLine_of_length (by simp) (by decide) _, ?_⟩
  intro t ht
  obtain ⟨⟨x, position⟩, -, rfl⟩ := List.mem_map.1 ht
  exact Token.fitsLine_singleton (by simp) x position

/-- An escape has its backslash, its marker and at most the whole of its
code. -/
theorem Token.fitsLine_escape {marker : Char} {code xs : List Char}
    (hc : CodeOf (.ofEscaped marker) code xs) (position : Nat) :
    (⟨.ofEscaped marker, String.ofList ('\\' :: marker :: code), position⟩ : Token).FitsLine := by
  have hcode : code.length ≤ (Kind.ofEscaped marker).codeWidth := by
    rcases hc with hc | ⟨hc, -⟩
    · exact Nat.le_of_eq hc
    · exact Nat.le_of_lt hc
  have hwidth : (Kind.ofEscaped marker).codeWidth + 2 ≤ textLimit := by
    have hall : ∀ k ∈ Kind.all, k.codeWidth + 2 ≤ textLimit := by decide
    exact hall _ (Kind.mem_all _)
  refine fitsLine_of_length (by simp) ?_ position
  rw [String.length_ofList, List.length_cons, List.length_cons]
  exact Nat.le_trans (Nat.add_le_add_right hcode 2) hwidth

/-- All texts that are scanned end in their lines. -/
theorem Scans.fitsLines {o : Options} {depth offset : Nat} {xs : List Char} {a : Scan}
    (h : Scans o depth offset xs a) : a.FitsLines := by
  have hopen : ∀ position, (⟨.groupOpen, "(", position⟩ : Token).FitsLine :=
    Token.fitsLine_of_length (by simp) (by decide)
  induction h with
  | done => exact fun t ht => absurd ht List.not_mem_nil
  | close hc _ ih => exact (Scan.fitsLines_closer (by simp) hc _).append ih
  | group _ _ _ ih => exact (Scan.fitsLines_token (hopen _)).append ih
  | mark _ _ _ _ ih => exact (Scan.fitsLines_token (hopen _)).append ih
  | lookahead _ _ ih =>
    have hahead : ∀ position, (⟨.lookahead, "(?=", position⟩ : Token).FitsLine :=
      Token.fitsLine_of_length (by simp) (by decide)
    exact (Scan.fitsLines_pair (hopen _) (hahead _)).append ih
  | negLookahead _ _ ih =>
    have hahead : ∀ position, (⟨.negLookahead, "(?!)", position⟩ : Token).FitsLine :=
      Token.fitsLine_of_length (by simp) (by decide)
    exact (Scan.fitsLines_pair (hopen _) (hahead _)).append ih
  | symbol _ _ _ _ ih =>
    exact (Scan.fitsLines_token (Token.fitsLine_singleton (by simp) _ _)).append ih
  | charClass _ hc _ ih =>
    exact ((Scan.fitsLines_bracket _ _).append (Scan.fitsLines_closer (by simp) hc _)).append ih
  | quantifier hb _ _ ih =>
    exact (Scan.fitsLines_token (Token.fitsLine_quantifier hb _)).append ih
  | escape hc _ ih => exact (Scan.fitsLines_token (Token.fitsLine_escape hc _)).append ih
  | backslash _ ih =>
    have hescape : ∀ position, (⟨.escape, "\\", position⟩ : Token).FitsLine :=
      Token.fitsLine_of_length (by simp) (by decide)
    exact (Scan.fitsLines_token (hescape _)).append ih

theorem fitsLine_of_mem_tokenize {pattern : String} {o : Options} {t : Token}
    (ht : t ∈ tokenize pattern o) : t.FitsLine :=
  (scans_scan pattern o).fitsLines t ht

/-- Patterns have the same lines exactly if they have the same tokens,
whatever characters their texts hold. -/
theorem renderLines_tokenize_eq_iff (p q : String) (o o' : Options) :
    renderLines (tokenize p o) = renderLines (tokenize q o') ↔ tokenize p o = tokenize q o' := by
  constructor
  · intro h
    exact renderLines_inj (fun _ => fitsLine_of_mem_tokenize) (fun _ => fitsLine_of_mem_tokenize) h
  · intro h
    rw [h]

end RegexTokens
