/-
RegexTokens.Proofs.RenamingTheorems — only a few characters steer a scan.

These are the signs, each of which means one thing, and the digits, which all
mean the same. A function on characters that keeps them (`KeepsSigns`) may
change all others as it likes, so long as it makes no signs and no digits of
them: a pattern and its image are scanned alike (`Scans.map`). By induction on
the derivation, as each rule asks of the characters it names only which sign
they are, and of the others that they are not a certain sign.
-/
import RegexTokens.Proofs.StreamTheorems

namespace RegexTokens

/-! ## §1 Signs -/

/-- The characters that mean something to a scan, other than digits. -/
def signs : List Char :=
  ['^', '$', '*', '+', '?', '.', '(', ')', '[', ']', '{', '}', '\\', '|', '=', '!', 'u', 'x']

/-- The function keeps signs as they are and digits as digits, and makes
neither of them of any other character. -/
structure KeepsSigns (f : Char → Char) : Prop where
  sign : ∀ x ∈ signs, f x = x
  digit : ∀ x : Char, x.isDigit = true → (f x).isDigit = true
  other : ∀ x : Char, x ∉ signs → x.isDigit = false → f x ∉ signs ∧ (f x).isDigit = false

theorem isDigit_of_mem_signs : ∀ x ∈ signs, x.isDigit = false := by simp [signs]

namespace KeepsSigns

variable {f : Char → Char} (hf : KeepsSigns f)
include hf

theorem isDigit_eq (x : Char) : (f x).isDigit = x.isDigit := by
  by_cases hx : x ∈ signs
  · rw [hf.sign x hx]
  · cases hdigit : x.isDigit with
    | true => exact hf.digit x hdigit
    | false => exact (hf.other x hx hdigit).2

/-- Nothing but a sign itself becomes that sign. -/
theorem eq_sign_iff {x s : Char} (hs : s ∈ signs) : f x = s ↔ x = s := by
  constructor
  · rintro rfl
    by_cases hx : x ∈ signs
    · exact (hf.sign x hx).symm
    · have hdigit : x.isDigit = false := hf.isDigit_eq x ▸ isDigit_of_mem_signs _ hs
      exact absurd hs (hf.other x hx hdigit).1
  · rintro rfl
    exact hf.sign x hs

theorem not_mem_map {s : Char} (hs : s ∈ signs) {chars : List Char} (h : s ∉ chars) :
    s ∉ chars.map f := by
  intro hmem
  obtain ⟨x, hx, heq⟩ := List.mem_map.1 hmem
  exact h ((hf.eq_sign_iff hs).1 heq ▸ hx)

theorem head?_map_ne {s : Char} (hs : s ∈ signs) {chars : List Char}
    (h : chars.head? ≠ some s) : (chars.map f).head? ≠ some s := by
  cases chars with
  | nil => exact h
  | cons x chars =>
    rw [List.map_cons, List.head?_cons, ne_eq, Option.some_inj, hf.eq_sign_iff hs]
    rwa [List.head?_cons, ne_eq, Option.some_inj] at h

theorem isAnchor_eq (x : Char) : isAnchor (f x) = isAnchor x := by
  rw [Bool.eq_iff_iff, isAnchor_iff, isAnchor_iff, hf.eq_sign_iff (by decide),
    hf.eq_sign_iff (by decide)]

theorem isMetaChar_eq (x : Char) : isMetaChar (f x) = isMetaChar x := by
  rw [Bool.eq_iff_iff, isMetaChar_iff, isMetaChar_iff, hf.eq_sign_iff (by decide),
    hf.eq_sign_iff (by decide), hf.eq_sign_iff (by decide), hf.eq_sign_iff (by decide)]

theorem ofSymbol_eq (x : Char) : Kind.ofSymbol (f x) = Kind.ofSymbol x := by
  have hpipe : f x = '|' ↔ x = '|' := hf.eq_sign_iff (by decide)
  simp only [Kind.ofSymbol, hf.isAnchor_eq, hf.isMetaChar_eq, hpipe]

theorem ofEscaped_eq (x : Char) : Kind.ofEscaped (f x) = Kind.ofEscaped x := by
  have hu : f x = 'u' ↔ x = 'u' := hf.eq_sign_iff (by decide)
  have hx : f x = 'x' ↔ x = 'x' := hf.eq_sign_iff (by decide)
  simp only [Kind.ofEscaped, hu, hx, hf.isDigit_eq]

theorem closedBy_map {s : Char} (hs : s ∈ signs) {close after : List Char}
    (h : ClosedBy s close after) : ClosedBy s (close.map f) (after.map f) := by
  rcases h with rfl | ⟨rfl, rfl⟩
  · exact .inl (by rw [List.map_singleton, hf.sign s hs])
  · exact .inr ⟨rfl, rfl⟩

/-- A text of signs stays as it is. -/
theorem map_eq_self {text : String} (h : ∀ x ∈ text.toList, x ∈ signs) : text.map f = text := by
  rw [← String.toList_inj, String.toList_map]
  calc text.toList.map f = text.toList.map id :=
        List.map_congr_left fun x hx => hf.sign x (h x hx)
    _ = text.toList := List.map_id _

end KeepsSigns

theorem codeOf_map {kind : Kind} {code after : List Char} (h : CodeOf kind code after)
    (f : Char → Char) : CodeOf kind (code.map f) (after.map f) := by
  rw [CodeOf, List.length_map]
  exact h.imp_right fun h => ⟨h.1, by rw [h.2, List.map_nil]⟩

/-! ## §2 Scans -/

/-- The token with the function applied to every character of its text. -/
def Token.mapText (f : Char → Char) (t : Token) : Token := { t with text := t.text.map f }

/-- The scan with the function applied to the texts of its tokens. -/
def Scan.mapText (f : Char → Char) (a : Scan) : Scan :=
  { a with tokens := a.tokens.map (Token.mapText f) }

section Constructs

variable {f : Char → Char}

theorem Scan.mapText_append (a b : Scan) : (a ++ b).mapText f = a.mapText f ++ b.mapText f := by
  ext1
  · exact List.map_append
  · rfl
  · rfl

theorem Scan.mapText_token (t : Token) (events : List Event) (width : Nat) :
    (⟨[t], events, width⟩ : Scan).mapText f = ⟨[t.mapText f], events, width⟩ := rfl

theorem Scan.mapText_pair (t u : Token) (events : List Event) (width : Nat) :
    (⟨[t, u], events, width⟩ : Scan).mapText f = ⟨[t.mapText f, u.mapText f], events, width⟩ := rfl

theorem Token.mapText_ofList (kind : Kind) (chars : List Char) (position : Nat) :
    (⟨kind, String.ofList chars, position⟩ : Token).mapText f =
      ⟨kind, String.ofList (chars.map f), position⟩ := by
  rw [mapText, String.map_eq_internal, String.toList_ofList]

theorem Token.mapText_singleton (kind : Kind) (x : Char) (position : Nat) :
    (⟨kind, String.singleton x, position⟩ : Token).mapText f =
      ⟨kind, String.singleton (f x), position⟩ :=
  mapText_ofList kind [x] position

theorem Scan.mapText_single (kind : Kind) (x : Char) (position : Nat) :
    (single kind (String.singleton x) position).mapText f =
      single kind (String.singleton (f x)) position := by
  rw [single, mapText_token, Token.mapText_singleton, single]

theorem Scan.mapText_closer (kind : Kind) (close : List Char) (offset : Nat) :
    (closer kind close offset).mapText f = closer kind (close.map f) offset := by
  ext1
  · exact congrArg (fun t => [t]) (Token.mapText_ofList kind close offset)
  · simp [mapText, closer]
  · rfl

theorem map_mapText_memberTokens (chars : List Char) (offset : Nat) :
    (memberTokens chars offset).map (Token.mapText f) = memberTokens (chars.map f) offset := by
  induction chars generalizing offset with
  | nil => rfl
  | cons x chars ih =>
    rw [memberTokens_cons, List.map_cons, List.map_cons, memberTokens_cons, ih,
      Token.mapText_singleton]

theorem KeepsSigns.mapText_eq_self (hf : KeepsSigns f) (kind : Kind) (text : String)
    (position : Nat) (h : ∀ x ∈ text.toList, x ∈ signs) :
    (⟨kind, text, position⟩ : Token).mapText f = ⟨kind, text, position⟩ := by
  rw [Token.mapText, hf.map_eq_self h]

theorem KeepsSigns.mapText_bracket (hf : KeepsSigns f) (body : List Char) (offset : Nat)
    (events : List Event) (width : Nat) :
    (⟨⟨.rangeOpen, "[", offset⟩ :: memberTokens body (offset + 1), events, width⟩ :
      Scan).mapText f =
      ⟨⟨.rangeOpen, "[", offset⟩ :: memberTokens (body.map f) (offset + 1), events, width⟩ := by
  rw [Scan.mapText, List.map_cons, map_mapText_memberTokens,
    hf.mapText_eq_self .rangeOpen "[" offset (by simp [signs])]

end Constructs

/-- If characters scan, their images under a function that keeps the signs scan
to the images of the same tokens. -/
theorem Scans.map {o : Options} {depth offset : Nat} {xs : List Char} {a : Scan}
    (h : Scans o depth offset xs a) {f : Char → Char} (hf : KeepsSigns f) :
    Scans o depth offset (xs.map f) (a.mapText f) := by
  have hopen : ∀ position, (⟨.groupOpen, "(", position⟩ : Token).mapText f =
      ⟨.groupOpen, "(", position⟩ :=
    fun position => hf.mapText_eq_self .groupOpen "(" position (by simp [signs])
  induction h with
  | done => exact done
  | close hc _ ih =>
    rw [List.map_append, Scan.mapText_append, Scan.mapText_closer]
    exact close (hf.closedBy_map (by decide) hc) ih
  | group ho hx _ ih =>
    rw [List.map_cons, hf.sign '(' (by decide), Scan.mapText_append, Scan.mapText_token, hopen]
    exact group ho (hf.head?_map_ne (by decide) hx) ih
  | mark ho he hn _ ih =>
    rw [List.map_cons, List.map_cons, hf.sign '(' (by decide), hf.sign '?' (by decide),
      Scan.mapText_append, Scan.mapText_token, hopen]
    exact mark ho (hf.head?_map_ne (by decide) he) (hf.head?_map_ne (by decide) hn) ih
  | @lookahead depth offset xs a ho _ ih =>
    have htoken := hf.mapText_eq_self .lookahead "(?=" (offset + 2) (by simp [signs])
    rw [List.map_cons, List.map_cons, List.map_cons, hf.sign '(' (by decide),
      hf.sign '?' (by decide), hf.sign '=' (by decide), Scan.mapText_append, Scan.mapText_pair,
      hopen, htoken]
    exact lookahead ho ih
  | @negLookahead depth offset xs a ho _ ih =>
    have htoken := hf.mapText_eq_self .negLookahead "(?!)" (offset + 2) (by simp [signs])
    rw [List.map_cons, List.map_cons, List.map_cons, hf.sign '(' (by decide),
      hf.sign '?' (by decide), hf.sign '!' (by decide), Scan.mapText_append, Scan.mapText_pair,
      hopen, htoken]
    exact negLookahead ho ih
  | @symbol depth offset x xs a hclose hopens hx _ ih =>
    have hclose' : ¬(f x = ')' ∧ 0 < depth) := by rwa [hf.eq_sign_iff (by decide)]
    have hopens' : ¬(f x = '(' ∧ o.Opens depth) := by rwa [hf.eq_sign_iff (by decide)]
    have hx' : f x ∉ ['[', '{', '\\'] := by
      simp only [List.mem_cons, List.not_mem_nil, or_false] at hx ⊢
      rwa [hf.eq_sign_iff (by decide), hf.eq_sign_iff (by decide), hf.eq_sign_iff (by decide)]
    rw [List.map_cons, Scan.mapText_append, Scan.mapText_single, ← hf.ofSymbol_eq]
    exact symbol hclose' hopens' hx' ih
  | charClass hb hc _ ih =>
    -- the image of the body is no longer than the body, and ends at the same bracket
    have hscan := charClass (o := o) (hf.not_mem_map (by decide) hb)
      (hf.closedBy_map (by decide) hc) (by rwa [List.length_map])
    rw [List.length_map] at hscan
    rw [List.map_cons, List.map_append, List.map_append, hf.sign '[' (by decide),
      Scan.mapText_append, Scan.mapText_append, hf.mapText_bracket, Scan.mapText_closer]
    exact hscan
  | @quantifier depth offset body close xs a hb hc _ ih =>
    have htext : ('{' :: body ++ ['}']).map f = '{' :: body.map f ++ ['}'] := by
      rw [List.map_append, List.map_cons, List.map_singleton, hf.sign '{' (by decide),
        hf.sign '}' (by decide)]
    have hscan := quantifier (o := o) (hf.not_mem_map (by decide) hb)
      (hf.closedBy_map (by decide) hc) (by rwa [List.length_map])
    rw [List.length_map] at hscan
    rw [List.map_cons, List.map_append, List.map_append, hf.sign '{' (by decide),
      Scan.mapText_append, Scan.mapText_token, Token.mapText_ofList, htext]
    exact hscan
  | @escape depth offset marker code xs a hc _ ih =>
    -- what the code is does not matter, only how many characters the marker asks for
    rw [← hf.ofEscaped_eq] at hc ih
    have hscan := escape (o := o) (codeOf_map hc f) ih
    rw [List.length_map] at hscan
    rw [List.map_cons, List.map_cons, List.map_append, hf.sign '\\' (by decide),
      Scan.mapText_append, Scan.mapText_token, Token.mapText_ofList, List.map_cons, List.map_cons,
      hf.sign '\\' (by decide), ← hf.ofEscaped_eq]
    exact hscan
  | @backslash depth offset a _ ih =>
    have htoken := hf.mapText_eq_self .escape "\\" (offset + 1) (by simp [signs])
    rw [List.map_singleton, hf.sign '\\' (by decide), Scan.mapText_append, Scan.mapText_token,
      htoken]
    exact backslash ih

/-! ## §3 Patterns -/

/-- A function that keeps the signs goes through the scan of a pattern: it is
applied to the texts of the tokens, and all else is the same. -/
theorem tokenize_map {f : Char → Char} (hf : KeepsSigns f) (pattern : String) (o : Options) :
    tokenize (pattern.map f) o = (tokenize pattern o).map (Token.mapText f) := by
  have h : Scans o 0 0 (pattern.map f).toList ((scan pattern o).mapText f) := by
    rw [String.toList_map]
    exact (scans_scan pattern o).map hf
  exact h.tokenize_eq

/-- One digit for another, and a letter that only looks like a digit. -/
def disguise (x : Char) : Char :=
  if x = '1' then '2' else if x = 'a' then '\uff11' else x

/-- A letter behind a backslash is no backreference, whatever it looks like. -/
theorem tokenize_map_disguise :
    KeepsSigns disguise ∧
      tokenize ("(?=a\\1\\a".map disguise) {} =
        (tokenize "(?=a\\1\\a" {}).map (Token.mapText disguise) := by
  have hkeeps : KeepsSigns disguise := by
    constructor
    · simp [signs, disguise]
    · intro x hx
      unfold disguise
      split
      · decide
      · split
        · rename_i ha
          subst ha
          exact absurd hx (by decide)
        · exact hx
    · intro x hx hdigit
      unfold disguise
      split
      · rename_i hone
        subst hone
        exact absurd hdigit (by decide)
      · split
        · simp [signs]
        · exact ⟨hx, hdigit⟩
  exact ⟨hkeeps, tokenize_map hkeeps _ _⟩

end RegexTokens
