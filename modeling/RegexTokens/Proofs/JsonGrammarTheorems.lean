/-
RegexTokens.Proofs.JsonGrammarTheorems — a text is at most one JSON document.

Texts are read from left to right, so more is shown than that a text has one
value: if two texts are the same with what follows them, the phrases of one
sort that they start with are the same and end at the same place
(`Reads.settled`). The end of a phrase is seen from what follows it, which must
not be able to go on with the phrase: no digit behind a number, no white space
behind an element, no comma behind the elements of an array. The first
character of a value tells its sort, so only texts by one rule are compared,
or an empty array or object with one that is not.
-/
import RegexTokens.Json.Grammar
import RegexTokens.Proofs.Delimited

namespace RegexTokens

namespace Json

variable {s s' t t' r r' : List Char}

/-! ## §1 Numbers -/

theorem Digits.exists_cons (d : Digits) : ∃ x xs, d.chars = x :: xs ∧ x.isDigit = true := by
  obtain ⟨x, xs, hd⟩ := List.exists_cons_of_ne_nil d.ne_nil
  exact ⟨x, xs, hd, d.isDigit x (hd ▸ List.mem_cons_self)⟩

theorem Digits.append_inj {d d' : Digits} (hr : StopsAt (·.isDigit = true) r)
    (hr' : StopsAt (·.isDigit = true) r') (h : d.chars ++ r = d'.chars ++ r') :
    d = d' ∧ r = r' := by
  obtain ⟨hd, hrest⟩ := append_inj_of_stopsAt d.isDigit d'.isDigit hr hr' h
  exact ⟨Digits.ext hd, hrest⟩

/-- A sign is seen from not being a digit. -/
theorem signed_append_inj {sign sign' : Option Char} {d d' : Digits}
    (hsign : ∀ x ∈ sign, x.isDigit = false) (hsign' : ∀ x ∈ sign', x.isDigit = false)
    (hr : StopsAt (·.isDigit = true) r) (hr' : StopsAt (·.isDigit = true) r')
    (h : sign.toList ++ (d.chars ++ r) = sign'.toList ++ (d'.chars ++ r')) :
    sign = sign' ∧ d = d' ∧ r = r' := by
  have hne : ∀ {x : Char} {d : Digits} {r t : List Char}, x.isDigit = false →
      x :: t ≠ d.chars ++ r := by
    intro x d r t hx h
    obtain ⟨y, ys, hd, hy⟩ := d.exists_cons
    rw [hd, List.cons_append, List.cons.injEq] at h
    simp [h.1, hy] at hx
  cases sign with
  | none =>
    cases sign' with
    | none => exact ⟨rfl, Digits.append_inj hr hr' h⟩
    | some y => exact absurd h.symm (hne (hsign' y rfl))
  | some x =>
    cases sign' with
    | none => exact absurd h (hne (hsign x rfl))
    | some y =>
      simp only [Option.toList_some, List.cons_append, List.nil_append, List.cons.injEq] at h
      exact ⟨congrArg some h.1, Digits.append_inj hr hr' h.2⟩

/-- A part that may be left out is seen from its first character. -/
theorem optional_append_inj {α : Type} (text : α → List Char) {P : Char → Prop} {o o' : Option α}
    (hfirst : ∀ a, ∃ x xs, text a = x :: xs ∧ P x)
    (hunique : ∀ a a', text a ++ r = text a' ++ r' → a = a' ∧ r = r')
    (hr : StopsAt P r) (hr' : StopsAt P r')
    (h : o.elim [] text ++ r = o'.elim [] text ++ r') : o = o' ∧ r = r' := by
  have hne : ∀ {a : α} {r r' : List Char}, StopsAt P r → r ≠ text a ++ r' := by
    intro a r r' hr h
    obtain ⟨x, xs, ha, hx⟩ := hfirst a
    exact hr x (by simp [h, ha]) hx
  cases o with
  | none =>
    cases o' with
    | none => exact ⟨rfl, h⟩
    | some a' => exact absurd h (hne hr)
  | some a =>
    cases o' with
    | none => exact absurd h.symm (hne hr')
    | some a' =>
      obtain ⟨ha, hrest⟩ := hunique a a' h
      exact ⟨congrArg some ha, hrest⟩

/-- The characters of numbers. -/
def IsNumberChar (x : Char) : Prop := x.isDigit = true ∨ x ∈ ['+', '-', '.', 'e', 'E']

theorem Exponent.append_inj {e e' : Exponent} (hr : StopsAt IsNumberChar r)
    (hr' : StopsAt IsNumberChar r') (h : e.text ++ r = e'.text ++ r') : e = e' ∧ r = r' := by
  have hsign : ∀ e : Exponent, ∀ x ∈ e.sign, x.isDigit = false := by
    intro e x hx
    rcases e.sign_eq x hx with rfl | rfl <;> decide
  simp only [text, List.cons_append, List.append_assoc, List.cons.injEq] at h
  obtain ⟨hmarker, h⟩ := h
  obtain ⟨hsigns, hdigits, hrest⟩ := signed_append_inj (hsign e) (hsign e')
    (hr.mono fun _ => .inl) (hr'.mono fun _ => .inl) h
  exact ⟨Exponent.ext hmarker hsigns hdigits, hrest⟩

theorem Exponent.text_first (e : Exponent) :
    ∃ x xs, e.text = x :: xs ∧ (x = 'e' ∨ x = 'E') :=
  ⟨e.marker, _, rfl, e.marker_eq⟩

/-- Behind the digits of a number an exponent may come, which starts with no digit or point. -/
theorem stopsAt_exponentText (n : Numeral) (hr : StopsAt IsNumberChar r) :
    StopsAt (fun x => x.isDigit = true ∨ x = '.') (n.exponentText ++ r) := by
  unfold Numeral.exponentText
  cases n.exponent with
  | none =>
    refine hr.mono ?_
    rintro x (hx | rfl)
    · exact .inl hx
    · exact .inr (by decide)
  | some e =>
    refine stopsAt_cons ?_ _
    rcases e.marker_eq with hm | hm <;> rw [hm] <;> decide

theorem stopsAt_fractionText (n : Numeral) (hr : StopsAt IsNumberChar r) :
    StopsAt (·.isDigit = true) (n.fractionText ++ (n.exponentText ++ r)) := by
  unfold Numeral.fractionText
  cases n.fraction with
  | none => exact (stopsAt_exponentText n hr).mono fun _ => .inl
  | some d => exact stopsAt_cons (by decide) _

theorem Numeral.append_inj {n n' : Numeral} (hr : StopsAt IsNumberChar r)
    (hr' : StopsAt IsNumberChar r') (h : n.text ++ r = n'.text ++ r') : n = n' ∧ r = r' := by
  have hsign : ∀ n : Numeral, ∀ x ∈ n.sign, x.isDigit = false := by
    intro n x hx
    rw [n.sign_eq x hx]
    decide
  simp only [text, List.append_assoc] at h
  obtain ⟨hsigns, hwhole, h⟩ := signed_append_inj (hsign n) (hsign n') (stopsAt_fractionText n hr)
    (stopsAt_fractionText n' hr') h
  have hstop := stopsAt_exponentText n hr
  have hstop' := stopsAt_exponentText n' hr'
  obtain ⟨hfraction, h⟩ := optional_append_inj (fun d : Digits => '.' :: d.chars)
    (fun d => ⟨'.', d.chars, rfl, .inr rfl⟩)
    (fun d d' h => Digits.append_inj (hstop.mono fun _ => .inl) (hstop'.mono fun _ => .inl)
      (List.cons.inj h).2) hstop hstop' h
  have hmarker : ∀ x, x = 'e' ∨ x = 'E' → IsNumberChar x := by
    rintro x (rfl | rfl) <;> exact .inr (by decide)
  obtain ⟨hexponent, hrest⟩ := optional_append_inj Exponent.text Exponent.text_first
    (fun _ _ => Exponent.append_inj hr hr') (hr.mono hmarker) (hr'.mono hmarker) h
  exact ⟨Numeral.ext hsigns hwhole hfraction hexponent, hrest⟩

/-! ## §2 Strings -/

theorem ReadsUnit.append_inj {n n' : Nat} (h : ReadsUnit s n) (h' : ReadsUnit s' n')
    (e : s ++ r = s' ++ r') : n = n' ∧ r = r' := by
  cases h with
  | digits h =>
    cases h' with
    | digits h' =>
      simp only [List.cons_append, List.nil_append, List.cons.injEq, true_and] at e
      obtain ⟨rfl, rfl, rfl, rfl, hrest⟩ := e
      exact ⟨Option.some.inj (h.symm.trans h'), hrest⟩

/-- The letter of a number is none of those that stand for a character. -/
theorem ReadsUnit.ne_letter {n : Nat} {letter x : Char} (h : ReadsUnit s n)
    (hletter : escapes.lookup letter = some x) : s ++ r ≠ '\\' :: letter :: r' := by
  cases h with
  | digits =>
    intro e
    simp only [List.cons_append, List.cons.injEq, true_and] at e
    have hu : escapes.lookup 'u' = none := by decide
    rw [← e.1, hu] at hletter
    cases hletter

theorem ReadsUnit.ne_raw {n : Nat} {x : Char} (h : ReadsUnit s n) (hx : x ≠ '\\') :
    s ++ r ≠ x :: r' := by
  cases h with
  | digits => exact fun e => hx (List.cons.inj e).1.symm

/-- A half is not the code of a character. -/
theorem toNat_ne_half {x y : Char} {n : Nat} (h : y.toNat = 0x10000 + n) :
    x.toNat ≠ 0xd800 + n / 0x400 := by
  have hx : x.toNat < 0xd800 ∨ 0xdfff < x.toNat ∧ x.toNat < 0x110000 := x.valid
  have hy : y.toNat < 0xd800 ∨ 0xdfff < y.toNat ∧ y.toNat < 0x110000 := y.valid
  omega

theorem ReadsChar.append_inj {x x' : Char} (h : ReadsChar s x) (h' : ReadsChar s' x')
    (e : s ++ r = s' ++ r') : x = x' ∧ r = r' := by
  cases h with
  | raw _ _ hraw =>
    cases h' with
    | raw => exact List.cons.inj e
    | letter => exact absurd (List.cons.inj e).1 hraw
    | code h' => exact absurd e.symm (h'.ne_raw hraw)
    | halves high' _ _ => exact absurd (by simpa using e.symm) (high'.ne_raw hraw)
  | letter hletter =>
    cases h' with
    | raw _ _ hraw => exact absurd (List.cons.inj e).1.symm hraw
    | letter hletter' =>
      simp only [List.cons_append, List.nil_append, List.cons.injEq, true_and] at e
      obtain ⟨rfl, hrest⟩ := e
      exact ⟨Option.some.inj (hletter.symm.trans hletter'), hrest⟩
    | code h' => exact absurd e.symm (h'.ne_letter hletter)
    | halves high' _ _ => exact absurd (by simpa using e.symm) (high'.ne_letter hletter)
  | code h =>
    cases h' with
    | raw _ _ hraw => exact absurd e (h.ne_raw hraw)
    | letter hletter' => exact absurd e (h.ne_letter hletter')
    | code h' =>
      obtain ⟨hcode, hrest⟩ := h.append_inj h' e
      exact ⟨Char.toNat_inj.1 hcode, hrest⟩
    | halves high' _ hx' =>
      rw [List.append_assoc] at e
      exact absurd (h.append_inj high' e).1 (toNat_ne_half hx')
  | halves high low hx =>
    rw [List.append_assoc] at e
    cases h' with
    | raw _ _ hraw => exact absurd e (high.ne_raw hraw)
    | letter hletter' => exact absurd e (high.ne_letter hletter')
    | code h' => exact absurd (high.append_inj h' e).1.symm (toNat_ne_half hx)
    | halves high' low' hx' =>
      rw [List.append_assoc] at e
      obtain ⟨hhigh, e⟩ := high.append_inj high' e
      obtain ⟨hlow, hrest⟩ := low.append_inj low' e
      exact ⟨Char.toNat_inj.1 (by omega), hrest⟩

/-- A quote in a string is written by a letter, so the string ends at the first one. -/
theorem ReadsChar.ne_quote {x : Char} (h : ReadsChar s x) : s ++ r ≠ '"' :: r' := by
  cases h with
  | raw _ hquote _ => exact fun e => hquote (List.cons.inj e).1
  | letter => exact fun e => absurd (List.cons.inj e).1 (by decide)
  | code h => exact h.ne_raw (by decide)
  | halves high _ _ =>
    rw [List.append_assoc]
    exact high.ne_raw (by decide)

theorem ReadsChars.append_inj {xs xs' : List Char} (h : ReadsChars s xs) (h' : ReadsChars s' xs')
    (e : s ++ '"' :: r = s' ++ '"' :: r') : xs = xs' ∧ r = r' := by
  induction h generalizing s' xs' with
  | nil =>
    cases h' with
    | nil => exact ⟨rfl, (List.cons.inj e).2⟩
    | cons head' _ =>
      rw [List.append_assoc] at e
      exact absurd e.symm head'.ne_quote
  | cons head _ ih =>
    rw [List.append_assoc] at e
    cases h' with
    | nil => exact absurd e head.ne_quote
    | cons head' tail' =>
      rw [List.append_assoc] at e
      obtain ⟨rfl, e⟩ := head.append_inj head' e
      obtain ⟨rfl, hrest⟩ := ih tail' e
      exact ⟨rfl, hrest⟩

theorem ReadsString.append_inj {text text' : String} (h : ReadsString s text)
    (h' : ReadsString s' text') (e : s ++ r = s' ++ r') : text = text' ∧ r = r' := by
  cases h with
  | quoted h =>
    cases h' with
    | quoted h' =>
      simp only [List.cons_append, List.append_assoc, List.nil_append, List.cons.injEq,
        true_and] at e
      obtain ⟨hchars, hrest⟩ := h.append_inj h' e
      exact ⟨String.toList_inj.1 hchars, hrest⟩

/-! ## §3 First characters -/

/-- The character that tells the sort of a value, for numbers a zero. -/
def Value.opening : Value → Char
  | .null => 'n'
  | .bool b => if b then 't' else 'f'
  | .number _ => '0'
  | .string _ => '"'
  | .array _ => '['
  | .object _ => '{'

/-- What a first character tells. -/
def openingOf (x : Char) : Char := if x = '-' ∨ x.isDigit = true then '0' else x

theorem Numeral.text_first (n : Numeral) :
    ∃ x xs, n.text = x :: xs ∧ (x = '-' ∨ x.isDigit = true) := by
  unfold text
  cases hsign : n.sign with
  | none =>
    obtain ⟨x, xs, hd, hx⟩ := n.whole.exists_cons
    exact ⟨x, _, by rw [hd]; rfl, .inr hx⟩
  | some y => exact ⟨y, _, rfl, .inl (n.sign_eq y hsign)⟩

theorem Reads.value_first {v : Value} (h : Reads s (.value v)) :
    ∃ x xs, s = x :: xs ∧ openingOf x = v.opening := by
  cases h with
  | null | false | true | emptyArray | array | emptyObject | object => exact ⟨_, _, rfl, rfl⟩
  | number n =>
    obtain ⟨x, xs, hn, hx⟩ := n.text_first
    exact ⟨x, xs, hn, if_pos hx⟩
  | string h =>
    cases h with
    | quoted => exact ⟨_, _, rfl, rfl⟩

theorem Reads.opening_eq {v v' : Value} (h : Reads s (.value v)) (h' : Reads s' (.value v'))
    (e : s ++ r = s' ++ r') : v.opening = v'.opening := by
  obtain ⟨x, xs, rfl, hx⟩ := h.value_first
  obtain ⟨y, ys, rfl, hy⟩ := h'.value_first
  rw [List.cons_append, List.cons_append, List.cons.injEq] at e
  rw [← hx, ← hy, e.1]

/-- White space is followed by something that is no white space and closes nothing. -/
def IsFilled (s : List Char) : Prop :=
  ∃ blank x rest, s = blank ++ x :: rest ∧ IsBlank blank ∧ ¬IsSpace x ∧ x ≠ ']' ∧ x ≠ '}'

theorem IsFilled.append (h : IsFilled s) (t : List Char) : IsFilled (s ++ t) := by
  obtain ⟨blank, x, rest, rfl, hx⟩ := h
  exact ⟨blank, x, rest ++ t, by simp, hx⟩

theorem IsFilled.behind {before : List Char} (hbefore : IsBlank before) (h : IsFilled s) :
    IsFilled (before ++ s) := by
  obtain ⟨blank, x, rest, rfl, hblank, hx⟩ := h
  refine ⟨before ++ blank, x, rest, by simp, ?_, hx⟩
  intro y hy
  exact (List.mem_append.1 hy).elim (hbefore y) (hblank y)

theorem Value.opening_mem (v : Value) : v.opening ∈ ['n', 't', 'f', '0', '"', '[', '{'] := by
  cases v with
  | bool b => cases b <;> decide
  | _ => simp [opening]

/-- No value starts with white space or what closes an array or object. -/
theorem Value.not_mem_of_opening {v : Value} {x : Char} (hx : openingOf x = v.opening) :
    x ∉ [' ', '\t', '\n', '\r', ']', '}'] := by
  have hmem : openingOf x ∈ ['n', 't', 'f', '0', '"', '[', '{'] := hx ▸ v.opening_mem
  intro hx
  simp only [List.mem_cons, List.not_mem_nil, or_false] at hx
  rcases hx with rfl | rfl | rfl | rfl | rfl | rfl <;> exact absurd hmem (by decide)

theorem Reads.value_isFilled {v : Value} (h : Reads s (.value v)) : IsFilled s := by
  obtain ⟨x, xs, rfl, hx⟩ := h.value_first
  exact ⟨[], x, xs, rfl, by simp [IsBlank],
    by simpa [IsSpace, and_assoc] using Value.not_mem_of_opening hx⟩

theorem ReadsString.isFilled {text : String} (h : ReadsString s text) : IsFilled s := by
  cases h with
  | quoted => exact ⟨[], '"', _, rfl, by simp [IsBlank], by decide, by decide, by decide⟩

theorem Reads.isFilled {p : Phrase} (h : Reads s p) : IsFilled s := by
  induction h with
  | null => exact Reads.null.value_isFilled
  | false => exact Reads.false.value_isFilled
  | true => exact Reads.true.value_isFilled
  | number n => exact (Reads.number n).value_isFilled
  | string h => exact (Reads.string h).value_isFilled
  | emptyArray h => exact (Reads.emptyArray h).value_isFilled
  | array h => exact (Reads.array h).value_isFilled
  | emptyObject h => exact (Reads.emptyObject h).value_isFilled
  | object h => exact (Reads.object h).value_isFilled
  | element hbefore _ _ ih => exact (ih.append _).behind hbefore
  | member hbefore hname _ _ _ => exact (hname.isFilled.append _).behind hbefore
  | lastElement _ ih | lastMember _ ih => exact ih
  | elements _ _ ih _ | members _ _ ih _ => exact ih.append _

/-! ## §4 Where phrases end -/

/-- Nothing but white space is not filled. -/
theorem IsFilled.ne_blank {blank : List Char} {right : Char} (h : IsFilled s)
    (hblank : IsBlank blank) (hright : right = ']' ∨ right = '}') :
    s ++ r ≠ blank ++ right :: r' := by
  obtain ⟨blank', x, rest, rfl, hblank', hspace, hbracket, hbrace⟩ := h
  intro e
  rw [List.append_assoc, List.cons_append] at e
  have hstop : StopsAt IsSpace (right :: r') := by
    refine stopsAt_cons ?_ _
    rcases hright with rfl | rfl <;> decide
  obtain ⟨-, e⟩ := append_inj_of_stopsAt hblank' hblank (stopsAt_cons hspace _) hstop e
  obtain ⟨rfl, -⟩ := List.cons.inj e
  exact hright.elim hbracket hbrace

theorem IsBlank.append_inj {blank blank' : List Char} (h : IsBlank blank) (h' : IsBlank blank')
    (hr : StopsAt IsSpace r) (hr' : StopsAt IsSpace r') (e : blank ++ r = blank' ++ r') : r = r' :=
  (append_inj_of_stopsAt h h' hr hr' e).2

theorem Reads.value_stopsAt {v : Value} (h : Reads s (.value v)) (r : List Char) :
    StopsAt IsSpace (s ++ r) := by
  obtain ⟨x, xs, rfl, hx⟩ := h.value_first
  refine stopsAt_cons (fun hspace => Value.not_mem_of_opening hx ?_) _
  exact List.mem_append_left [']', '}'] hspace

theorem ReadsString.stopsAt {text : String} (h : ReadsString s text) (r : List Char) :
    StopsAt IsSpace (s ++ r) := by
  cases h with
  | quoted => exact stopsAt_cons (by decide) _

/-- The characters an element or a member could go on with. -/
def GoesOn (x : Char) : Prop := IsNumberChar x ∨ IsSpace x

/-- The characters a list of elements or members could go on with. -/
def GoesOnList (x : Char) : Prop := GoesOn x ∨ x = ','

theorem IsBlank.stopsAt_append {blank : List Char} (h : IsBlank blank) (hr : StopsAt GoesOn r) :
    StopsAt IsNumberChar (blank ++ r) := by
  have hspace : ∀ x, IsSpace x → ¬IsNumberChar x := by
    intro x hx
    simp only [IsSpace, List.mem_cons, List.not_mem_nil, or_false] at hx
    unfold IsNumberChar
    rcases hx with rfl | rfl | rfl | rfl <;> decide
  cases blank with
  | nil => exact hr.mono fun _ => .inl
  | cons x blank => exact stopsAt_cons (hspace x (h x List.mem_cons_self)) _

/-- Whatever text of the sort starts what the characters start has the same value and ends
where they do. -/
def Settled {α : Type} (phrase : α → Phrase) (P : Char → Prop) (s : List Char) (a : α) : Prop :=
  ∀ {s' r r' : List Char} {a' : α}, Reads s' (phrase a') → StopsAt P r → StopsAt P r' →
    s ++ r = s' ++ r' → a = a' ∧ r = r'

/-- A phrase is one or more of another, with commas between them. -/
def IsListing {α : Type} (one : α → Phrase) (many : List α → Phrase) : Prop :=
  ∀ {s : List Char} {as : List α}, Reads s (many as) →
    (∃ a, as = [a] ∧ Reads s (one a)) ∨
    ∃ t u b bs, as = b :: bs ∧ s = t ++ ',' :: u ∧ Reads t (one b) ∧ Reads u (many bs)

theorem isListing_elements : IsListing .element .elements := by
  intro s vs h
  cases h with
  | lastElement h => exact .inl ⟨_, rfl, h⟩
  | elements head tail => exact .inr ⟨_, _, _, _, rfl, rfl, head, tail⟩

theorem isListing_members : IsListing .member .members := by
  intro s ms h
  cases h with
  | lastMember h => exact .inl ⟨_, rfl, h⟩
  | members head tail => exact .inr ⟨_, _, _, _, rfl, rfl, head, tail⟩

section

variable {α : Type} {one : α → Phrase} {many : List α → Phrase} {a : α} {as : List α}

theorem stopsAt_comma (r : List Char) : StopsAt GoesOn (',' :: r) :=
  stopsAt_cons (by unfold GoesOn IsNumberChar; decide) r

theorem IsListing.settled_last (hl : IsListing one many) (h : Settled one GoesOn s a) :
    Settled many GoesOnList s [a] := by
  intro s' r r' as' h' hr hr' e
  rcases hl h' with ⟨a', rfl, hone⟩ | ⟨t, u, b, bs, rfl, rfl, ht, -⟩
  · obtain ⟨rfl, hrest⟩ := h hone (hr.mono fun _ => .inl) (hr'.mono fun _ => .inl) e
    exact ⟨rfl, hrest⟩
  · -- what follows would have to go on with the comma
    rw [List.append_assoc] at e
    obtain ⟨-, rfl⟩ := h ht (hr.mono fun _ => .inl) (stopsAt_comma _) e
    exact absurd (.inr rfl) (hr _ rfl)

theorem IsListing.settled_cons (hl : IsListing one many) (h : Settled one GoesOn s a)
    (hs : Settled many GoesOnList t as) : Settled many GoesOnList (s ++ ',' :: t) (a :: as) := by
  intro s' r r' as' h' hr hr' e
  rw [List.append_assoc] at e
  rcases hl h' with ⟨a', rfl, hone⟩ | ⟨t', u, b, bs, rfl, rfl, ht, hu⟩
  · obtain ⟨-, rfl⟩ := h hone (stopsAt_comma _) (hr'.mono fun _ => .inl) e
    exact absurd (.inr rfl) (hr' _ rfl)
  · rw [List.append_assoc] at e
    obtain ⟨rfl, e⟩ := h ht (stopsAt_comma _) (stopsAt_comma _) e
    obtain ⟨rfl, hrest⟩ := hs hu hr hr' (List.cons.inj e).2
    exact ⟨rfl, hrest⟩

end

/-- A value is a list of what the phrases are, in brackets. -/
def IsBracketing {α : Type} (left right : Char) (many : List α → Phrase) (group : List α → Value) :
    Prop :=
  ∀ {s : List Char} {v : Value}, Reads s (.value v) → v.opening = left →
    ∃ t as, v = group as ∧ s = left :: (t ++ [right]) ∧
      (IsBlank t ∧ as = [] ∨ Reads t (many as))

theorem isBracketing_array : IsBracketing '[' ']' .elements .array := by
  intro s v h hopening
  cases h with
  | emptyArray hblank => exact ⟨_, _, rfl, rfl, .inl ⟨hblank, rfl⟩⟩
  | array h => exact ⟨_, _, rfl, rfl, .inr h⟩
  | _ => simp [Value.opening] at hopening

theorem isBracketing_object : IsBracketing '{' '}' .members .object := by
  intro s v h hopening
  cases h with
  | emptyObject hblank => exact ⟨_, _, rfl, rfl, .inl ⟨hblank, rfl⟩⟩
  | object h => exact ⟨_, _, rfl, rfl, .inr h⟩
  | _ => simp [Value.opening] at hopening

section

variable {α : Type} {left right : Char} {many : List α → Phrase} {group : List α → Value}
  {as : List α}

theorem IsBracketing.settled (hb : IsBracketing left right many group)
    (hright : right = ']' ∨ right = '}') (hopening : (group as).opening = left)
    (h : Reads (left :: (s ++ [right])) (.value (group as)))
    (hcontents : IsBlank s ∧ as = [] ∨ Reads s (many as) ∧ Settled many GoesOnList s as) :
    Settled .value IsNumberChar (left :: (s ++ [right])) (group as) := by
  intro s' r r' v' h' hr hr' e
  obtain ⟨t, as', rfl, rfl, hcontents'⟩ := hb h' (by rw [← h.opening_eq h' e, hopening])
  simp only [List.cons_append, List.append_assoc, List.nil_append, List.cons.injEq,
    true_and] at e
  rcases hcontents with ⟨hs, rfl⟩ | ⟨hs, hsettled⟩
  · rcases hcontents' with ⟨ht, rfl⟩ | ht
    · have hstop : ∀ r, StopsAt IsSpace (right :: r) := by
        intro r
        refine stopsAt_cons ?_ r
        rcases hright with rfl | rfl <;> decide
      exact ⟨rfl, (List.cons.inj (hs.append_inj ht (hstop r) (hstop r') e)).2⟩
    · exact absurd e.symm (ht.isFilled.ne_blank hs hright)
  · rcases hcontents' with ⟨ht, rfl⟩ | ht
    · exact absurd e (hs.isFilled.ne_blank ht hright)
    · have hstop : ∀ r, StopsAt GoesOnList (right :: r) := by
        intro r
        refine stopsAt_cons ?_ r
        unfold GoesOnList GoesOn IsNumberChar
        rcases hright with rfl | rfl <;> decide
      obtain ⟨rfl, hrest⟩ := hsettled ht (hstop r) (hstop r') e
      exact ⟨rfl, (List.cons.inj hrest).2⟩

end

/-- No other phrase of the sort is read from what the characters start. -/
def SettledPhrase (s : List Char) : Phrase → Prop
  | .value v => Settled .value IsNumberChar s v
  | .element v => Settled .element GoesOn s v
  | .elements vs => Settled .elements GoesOnList s vs
  | .member m => Settled .member GoesOn s m
  | .members ms => Settled .members GoesOnList s ms

/-- What starts with a phrase starts with no other one of the same sort, as long as what follows
cannot go on with it. -/
theorem Reads.settled {p : Phrase} (h : Reads s p) : SettledPhrase s p := by
  induction h with
  | null =>
    intro s' r r' v' h' hr hr' e
    have hopening := null.opening_eq h' e
    cases h' with
    | null => exact ⟨rfl, List.append_cancel_left e⟩
    | _ => simp [Value.opening] at hopening
  | false =>
    intro s' r r' v' h' hr hr' e
    have hopening := false.opening_eq h' e
    cases h' with
    | false => exact ⟨rfl, List.append_cancel_left e⟩
    | _ => simp [Value.opening] at hopening
  | true =>
    intro s' r r' v' h' hr hr' e
    have hopening := true.opening_eq h' e
    cases h' with
    | true => exact ⟨rfl, List.append_cancel_left e⟩
    | _ => simp [Value.opening] at hopening
  | number n =>
    intro s' r r' v' h' hr hr' e
    have hopening := (number n).opening_eq h' e
    cases h' with
    | number n' =>
      obtain ⟨rfl, hrest⟩ := Numeral.append_inj hr hr' e
      exact ⟨rfl, hrest⟩
    | _ => simp [Value.opening] at hopening
  | string h =>
    intro s' r r' v' h' hr hr' e
    have hopening := (string h).opening_eq h' e
    cases h' with
    | string h' =>
      obtain ⟨rfl, hrest⟩ := h.append_inj h' e
      exact ⟨rfl, hrest⟩
    | _ => simp [Value.opening] at hopening
  | emptyArray hblank =>
    exact isBracketing_array.settled (.inl rfl) rfl (emptyArray hblank) (.inl ⟨hblank, rfl⟩)
  | array h ih => exact isBracketing_array.settled (.inl rfl) rfl (array h) (.inr ⟨h, ih⟩)
  | emptyObject hblank =>
    exact isBracketing_object.settled (.inr rfl) rfl (emptyObject hblank) (.inl ⟨hblank, rfl⟩)
  | object h ih => exact isBracketing_object.settled (.inr rfl) rfl (object h) (.inr ⟨h, ih⟩)
  | element hbefore h hafter ih =>
    intro s' r r' v' h' hr hr' e
    cases h' with
    | element hbefore' h' hafter' =>
      simp only [List.append_assoc] at e
      have e := hbefore.append_inj hbefore' (h.value_stopsAt _) (h'.value_stopsAt _) e
      obtain ⟨rfl, e⟩ := ih h' (hafter.stopsAt_append hr) (hafter'.stopsAt_append hr') e
      exact ⟨rfl, hafter.append_inj hafter' (hr.mono fun _ => .inr) (hr'.mono fun _ => .inr) e⟩
  | lastElement _ ih => exact isListing_elements.settled_last ih
  | elements _ _ ih ihs => exact isListing_elements.settled_cons ih ihs
  | member hbefore hname hafter _ ih =>
    intro s' r r' m' h' hr hr' e
    cases h' with
    | member hbefore' hname' hafter' h' =>
      simp only [List.append_assoc] at e
      have e := hbefore.append_inj hbefore' (hname.stopsAt _) (hname'.stopsAt _) e
      obtain ⟨rfl, e⟩ := hname.append_inj hname' e
      have hcolon : ∀ r, StopsAt IsSpace (':' :: r) := stopsAt_cons (by decide)
      have e := hafter.append_inj hafter' (hcolon _) (hcolon _) e
      obtain ⟨rfl, hrest⟩ := ih h' hr hr' (List.cons.inj e).2
      exact ⟨rfl, hrest⟩
  | lastMember _ ih => exact isListing_members.settled_last ih
  | members _ _ ih ihs => exact isListing_members.settled_cons ih ihs

/-- A text has at most one value. -/
theorem IsText.unique {text : String} {v v' : Value} (h : IsText text v) (h' : IsText text v') :
    v = v' :=
  (Reads.settled h h' (stopsAt_nil _) (stopsAt_nil _) rfl).1

end Json

end RegexTokens
