/-
RegexTokens.Proofs.Derivation — the scan of a pattern as a derivation.

`Scans o depth offset rest a` says that the characters `rest`, which start
at `offset` inside of `depth` open groups, scan to `a`. There is one rule for
each construct, and a rule names the characters that the construct is made
of, where `Scan.plain` and `Scan.groupRest` find them by searching for the
closing character.

A construct that the pattern leaves open and one that is closed are the same
rule: `ClosedBy` says that the closing character is there, or that it is
missing and the pattern has ended.

§2 reads each construct off its characters, and §3 puts the constructs
together: `scans_scan` says that a pattern scans to its scan.
-/
import RegexTokens.Scan.Pattern

namespace RegexTokens

/-! ## §1 Rules -/

/-- An opening parenthesis inside of `depth` open groups opens another. -/
def Options.Opens (o : Options) (depth : Nat) : Prop := depth = 0 ∨ o.nestedGroups = true

/-- Between a construct and what follows it stands its closing character, or
nothing at all where the pattern ends. -/
def ClosedBy (x : Char) (close after : List Char) : Prop :=
  close = [x] ∨ close = [] ∧ after = []

/-- The code of an escape is complete, or the end of the pattern cuts it. -/
def CodeOf (kind : Kind) (code after : List Char) : Prop :=
  code.length = kind.codeWidth ∨ code.length < kind.codeWidth ∧ after = []

/-- The members of a class, from an offset on. -/
def memberTokens (chars : List Char) (offset : Nat) : List Token :=
  (chars.zipIdx offset).map fun (x, i) => ⟨.char, String.singleton x, i⟩

theorem memberTokens_cons (x : Char) (chars : List Char) (offset : Nat) :
    memberTokens (x :: chars) offset =
      ⟨.char, String.singleton x, offset⟩ :: memberTokens chars (offset + 1) := rfl

theorem kind_of_mem_memberTokens {chars : List Char} {offset : Nat} {t : Token}
    (ht : t ∈ memberTokens chars offset) : t.kind = .char := by
  obtain ⟨⟨x, i⟩, -, rfl⟩ := List.mem_map.1 ht
  rfl

/-- The scan of a closing character, or of its absence. -/
def Scan.closer (kind : Kind) (close : List Char) (offset : Nat) : Scan where
  tokens := [⟨kind, String.ofList close, offset⟩]
  events := if close = [] then [.pastEnd offset] else []
  width := 1

@[simp] theorem Scan.tokens_closer (kind : Kind) (close : List Char) (offset : Nat) :
    (closer kind close offset).tokens = [⟨kind, String.ofList close, offset⟩] := rfl

@[simp] theorem Scan.width_closer (kind : Kind) (close : List Char) (offset : Nat) :
    (closer kind close offset).width = 1 := rfl

/-- The characters, from `offset` on and inside of `depth` open groups, scan
to tokens and events up to the end of the pattern. -/
inductive Scans (o : Options) : (depth offset : Nat) → List Char → Scan → Prop
  | done {offset : Nat} : Scans o 0 offset [] .empty
  | close {depth offset : Nat} {close xs : List Char} {a : Scan} :
    ClosedBy ')' close xs → Scans o depth (offset + 1) xs a →
      Scans o (depth + 1) offset (close ++ xs) (.closer .groupClose close offset ++ a)
  | group {depth offset : Nat} {xs : List Char} {a : Scan} :
    o.Opens depth → xs.head? ≠ some '?' → Scans o (depth + 1) (offset + 1) xs a →
      Scans o depth offset ('(' :: xs)
        (⟨[⟨.groupOpen, "(", offset⟩], [.entered .group offset], 1⟩ ++ a)
  /-- A question mark that says nothing about its group. -/
  | mark {depth offset : Nat} {xs : List Char} {a : Scan} :
    o.Opens depth → xs.head? ≠ some '=' → xs.head? ≠ some '!' →
      Scans o (depth + 1) (offset + 2) xs a →
      Scans o depth offset ('(' :: '?' :: xs)
        (⟨[⟨.groupOpen, "(", offset⟩], [.entered .group offset], 2⟩ ++ a)
  | lookahead {depth offset : Nat} {xs : List Char} {a : Scan} :
    o.Opens depth → Scans o (depth + 1) (offset + 3) xs a →
      Scans o depth offset ('(' :: '?' :: '=' :: xs)
        (⟨[⟨.groupOpen, "(", offset⟩, ⟨.lookahead, "(?=", offset + 2⟩],
          [.entered .group offset], 3⟩ ++ a)
  | negLookahead {depth offset : Nat} {xs : List Char} {a : Scan} :
    o.Opens depth → Scans o (depth + 1) (offset + 3) xs a →
      Scans o depth offset ('(' :: '?' :: '!' :: xs)
        (⟨[⟨.groupOpen, "(", offset⟩, ⟨.negLookahead, "(?!)", offset + 2⟩],
          [.entered .group offset], 3⟩ ++ a)
  | symbol {depth offset : Nat} {x : Char} {xs : List Char} {a : Scan} :
    ¬(x = ')' ∧ 0 < depth) → ¬(x = '(' ∧ o.Opens depth) → x ∉ ['[', '{', '\\'] →
      Scans o depth (offset + 1) xs a →
      Scans o depth offset (x :: xs) (.single (.ofSymbol x) (.singleton x) offset ++ a)
  | charClass {depth offset : Nat} {body close xs : List Char} {a : Scan} :
    ']' ∉ body → ClosedBy ']' close xs → Scans o depth (offset + body.length + 2) xs a →
      Scans o depth offset ('[' :: (body ++ (close ++ xs)))
        ((⟨⟨.rangeOpen, "[", offset⟩ :: memberTokens body (offset + 1),
          [.entered .charClass offset], body.length + 1⟩
          ++ .closer .rangeClose close (offset + 1 + body.length)) ++ a)
  | quantifier {depth offset : Nat} {body close xs : List Char} {a : Scan} :
    '}' ∉ body → ClosedBy '}' close xs → Scans o depth (offset + body.length + 2) xs a →
      Scans o depth offset ('{' :: (body ++ (close ++ xs)))
        (⟨[⟨.quantifier, String.ofList ('{' :: body ++ ['}']), offset + 1 + body.length⟩],
          [.entered .quantifier offset], body.length + 2⟩ ++ a)
  | escape {depth offset : Nat} {marker : Char} {code xs : List Char} {a : Scan} :
    CodeOf (.ofEscaped marker) code xs →
      Scans o depth (offset + (Kind.ofEscaped marker).codeWidth + 2) xs a →
      Scans o depth offset ('\\' :: marker :: (code ++ xs))
        (⟨[⟨.ofEscaped marker, String.ofList ('\\' :: marker :: code), offset + 1⟩],
          .entered .escape offset ::
            if code.length < (Kind.ofEscaped marker).codeWidth then
              [.shortWindow (offset + 2) (Kind.ofEscaped marker).codeWidth] else [],
          (Kind.ofEscaped marker).codeWidth + 2⟩ ++ a)
  /-- A backslash that nothing follows. -/
  | backslash {depth offset : Nat} {a : Scan} : Scans o depth (offset + 2) [] a →
      Scans o depth offset ['\\']
        (⟨[⟨.escape, "\\", offset + 1⟩], [.entered .escape offset, .pastEnd (offset + 1)], 2⟩ ++ a)

/-! ## §2 Constructs read off their characters -/

/-- A character stands in a list where it first occurs, or the list ends
without it. -/
theorem exists_closedBy (x : Char) (l : List Char) :
    ∃ body close after, l = body ++ (close ++ after) ∧ x ∉ body ∧ ClosedBy x close after := by
  by_cases h : x ∈ l
  · obtain ⟨body, after, rfl, hb⟩ := List.eq_append_cons_of_mem h
    exact ⟨body, [x], after, rfl, hb, .inl rfl⟩
  · exact ⟨l, [], [], by simp, h, .inr ⟨rfl, rfl⟩⟩

/-- The characters before the first `x` are those that come before it. -/
theorem takeWhile_closedBy {x : Char} {body close after : List Char} (hb : x ∉ body)
    (hc : ClosedBy x close after) : (body ++ (close ++ after)).takeWhile (· != x) = body := by
  have hbody : ∀ y ∈ body, (y != x) = true := by
    intro y hy
    have : y ≠ x := fun h => hb (h ▸ hy)
    simpa using this
  rw [List.takeWhile_append_of_pos hbody]
  rcases hc with rfl | ⟨rfl, rfl⟩ <;> simp

/-- The code of an escape is what comes after its marker. -/
theorem exists_codeOf (kind : Kind) (l : List Char) :
    ∃ code after, l = code ++ after ∧ CodeOf kind code after := by
  refine ⟨l.take kind.codeWidth, l.drop kind.codeWidth, by simp, ?_⟩
  by_cases h : kind.codeWidth ≤ l.length
  · exact .inl (List.length_take_of_le h)
  · exact .inr ⟨by simp; omega, List.drop_of_length_le (by omega)⟩

theorem take_codeOf {kind : Kind} {code after : List Char} (hc : CodeOf kind code after) :
    (code ++ after).take kind.codeWidth = code := by
  rcases hc with hc | ⟨hc, rfl⟩
  · rw [← hc, List.take_left]
  · rw [List.append_nil, List.take_of_length_le (by omega)]

theorem drop_codeOf {kind : Kind} {code after : List Char} (hc : CodeOf kind code after) :
    (code ++ after).drop kind.codeWidth = after := by
  rcases hc with hc | ⟨hc, rfl⟩
  · rw [← hc, List.drop_left]
  · rw [List.append_nil, List.drop_of_length_le (by omega)]

/-- The place after the closing character is the place after the construct. -/
theorem drop_closedBy {x : Char} {body close after : List Char} (hc : ClosedBy x close after) :
    (body ++ (close ++ after)).drop (body.length + 1) = after := by
  rcases hc with rfl | ⟨rfl, rfl⟩
  · simp
  · simp

namespace Scan

theorem closing_eq {x : Char} {close after : List Char} (hc : ClosedBy x close after) (kind : Kind)
    (offset : Nat) : closing kind ⟨offset, close ++ after⟩ = closer kind close offset := by
  rcases hc with rfl | ⟨rfl, rfl⟩
  · rfl
  · rfl

theorem opening_group {xs : List Char} (h : xs.head? ≠ some '?') (offset : Nat) :
    opening ⟨offset, '(' :: xs⟩ =
      ⟨[⟨.groupOpen, "(", offset⟩], [.entered .group offset], 1⟩ := by
  simp only [opening, Cursor.advance, List.drop_succ_cons, List.drop_zero]
  split <;> simp_all

theorem opening_mark {xs : List Char} (h : xs.head? ≠ some '=') (h' : xs.head? ≠ some '!')
    (offset : Nat) :
    opening ⟨offset, '(' :: '?' :: xs⟩ =
      ⟨[⟨.groupOpen, "(", offset⟩], [.entered .group offset], 2⟩ := by
  simp only [opening, Cursor.advance, List.drop_succ_cons, List.drop_zero]
  split <;> simp_all

theorem charClass_eq {body close after : List Char} (hb : ']' ∉ body)
    (hc : ClosedBy ']' close after) (x : Char) (offset : Nat) :
    charClass ⟨offset, x :: (body ++ (close ++ after))⟩ =
      ⟨⟨.rangeOpen, "[", offset⟩ :: memberTokens body (offset + 1),
        [.entered .charClass offset], body.length + 1⟩
        ++ closer .rangeClose close (offset + 1 + body.length) := by
  have hbody : members ((⟨offset, x :: (body ++ (close ++ after))⟩ : Cursor).advance 1) =
      ⟨memberTokens body (offset + 1), [], body.length⟩ := by
    simp only [members, Cursor.advance, List.drop_succ_cons, List.drop_zero,
      takeWhile_closedBy hb hc]
    rfl
  have hnext : (⟨offset, x :: (body ++ (close ++ after))⟩ : Cursor).advance (1 + body.length) =
      ⟨offset + 1 + body.length, close ++ after⟩ := by
    simp [Cursor.advance, Nat.add_comm 1, Nat.add_right_comm, Nat.add_assoc]
  rw [charClass, hbody, hnext, closing_eq hc]
  ext1 <;> simp [Nat.add_comm 1]

theorem quantifier_eq {body close after : List Char} (hb : '}' ∉ body)
    (hc : ClosedBy '}' close after) (x : Char) (offset : Nat) :
    quantifier ⟨offset, x :: (body ++ (close ++ after))⟩ =
      ⟨[⟨.quantifier, String.ofList ('{' :: body ++ ['}']), offset + 1 + body.length⟩],
        [.entered .quantifier offset], body.length + 2⟩ := by
  simp only [quantifier, Cursor.advance, List.drop_succ_cons, List.drop_zero,
    takeWhile_closedBy hb hc]

theorem escape_eq {marker : Char} {code after : List Char}
    (hc : CodeOf (.ofEscaped marker) code after) (x : Char) (offset : Nat) :
    escape ⟨offset, x :: marker :: (code ++ after)⟩ =
      ⟨[⟨.ofEscaped marker, String.ofList ('\\' :: marker :: code), offset + 1⟩],
        .entered .escape offset ::
          if code.length < (Kind.ofEscaped marker).codeWidth then
            [.shortWindow (offset + 2) (Kind.ofEscaped marker).codeWidth] else [],
        (Kind.ofEscaped marker).codeWidth + 2⟩ := by
  simp only [escape, Cursor.advance, List.drop_succ_cons, List.drop_zero, take_codeOf hc]

end Scan

/-! ## §3 The derivation of a scan -/

namespace Scans

variable {o : Options} {depth offset : Nat} {x : Char} {xs : List Char} {a : Scan}

theorem of_charClass
    (ha : Scans o depth (offset + (Scan.charClass ⟨offset, '[' :: xs⟩).width)
      (('[' :: xs).drop (Scan.charClass ⟨offset, '[' :: xs⟩).width) a) :
    Scans o depth offset ('[' :: xs) (Scan.charClass ⟨offset, '[' :: xs⟩ ++ a) := by
  obtain ⟨body, close, after, rfl, hb, hc⟩ := exists_closedBy ']' xs
  rw [Scan.charClass_eq hb hc] at ha ⊢
  refine charClass hb hc ?_
  simpa [drop_closedBy hc, Nat.add_assoc] using ha

theorem of_quantifier
    (ha : Scans o depth (offset + (Scan.quantifier ⟨offset, '{' :: xs⟩).width)
      (('{' :: xs).drop (Scan.quantifier ⟨offset, '{' :: xs⟩).width) a) :
    Scans o depth offset ('{' :: xs) (Scan.quantifier ⟨offset, '{' :: xs⟩ ++ a) := by
  obtain ⟨body, close, after, rfl, hb, hc⟩ := exists_closedBy '}' xs
  rw [Scan.quantifier_eq hb hc] at ha ⊢
  refine quantifier hb hc ?_
  simpa [drop_closedBy hc, Nat.add_assoc] using ha

theorem of_escape
    (ha : Scans o depth (offset + (Scan.escape ⟨offset, '\\' :: xs⟩).width)
      (('\\' :: xs).drop (Scan.escape ⟨offset, '\\' :: xs⟩).width) a) :
    Scans o depth offset ('\\' :: xs) (Scan.escape ⟨offset, '\\' :: xs⟩ ++ a) := by
  cases xs with
  | nil => exact backslash (by simpa [Scan.escape] using ha)
  | cons marker tail =>
    obtain ⟨code, after, rfl, hc⟩ := exists_codeOf (.ofEscaped marker) tail
    rw [Scan.escape_eq hc] at ha ⊢
    refine escape hc ?_
    simpa [drop_codeOf hc, Nat.add_assoc] using ha

/-- A construct that is not a group is scanned as its rule says. -/
theorem of_plain (hclose : ¬(x = ')' ∧ 0 < depth)) (hopen : ¬(x = '(' ∧ o.Opens depth))
    (ha : Scans o depth (offset + (Scan.plain x ⟨offset, x :: xs⟩).width)
      ((x :: xs).drop (Scan.plain x ⟨offset, x :: xs⟩).width) a) :
    Scans o depth offset (x :: xs) (Scan.plain x ⟨offset, x :: xs⟩ ++ a) := by
  by_cases hx : x ∈ ['[', '{', '\\']
  · simp only [List.mem_cons, List.not_mem_nil, or_false] at hx
    rcases hx with rfl | rfl | rfl
    · exact of_charClass ha
    · exact of_quantifier ha
    · exact of_escape ha
  · have hp : Scan.plain x ⟨offset, x :: xs⟩ =
        .single (.ofSymbol x) (.singleton x) offset := by
      simp_all [Scan.plain, Scan.symbol]
    rw [hp] at ha ⊢
    exact symbol hclose hopen hx (by simpa using ha)

/-- The opening of a group is scanned as one of its four rules says. -/
theorem of_opening (hopen : o.Opens depth)
    (ha : Scans o (depth + 1) (offset + (Scan.opening ⟨offset, '(' :: xs⟩).width)
      (('(' :: xs).drop (Scan.opening ⟨offset, '(' :: xs⟩).width) a) :
    Scans o depth offset ('(' :: xs) (Scan.opening ⟨offset, '(' :: xs⟩ ++ a) := by
  by_cases hq : xs.head? = some '?'
  · obtain ⟨ys, rfl⟩ := List.head?_eq_some_iff.1 hq
    by_cases he : ys.head? = some '='
    · obtain ⟨zs, rfl⟩ := List.head?_eq_some_iff.1 he
      exact lookahead hopen ha
    · by_cases hn : ys.head? = some '!'
      · obtain ⟨zs, rfl⟩ := List.head?_eq_some_iff.1 hn
        exact negLookahead hopen ha
      · rw [Scan.opening_mark he hn] at ha ⊢
        exact mark hopen he hn ha
  · rw [Scan.opening_group hq] at ha ⊢
    exact group hopen hq ha

/-- What stands inside of open groups is scanned up to the end of these
groups, and what follows them after that. -/
theorem of_groupRest (c : Cursor) (ha : Scans o 0 (c.offset + (Scan.groupRest o depth c).width)
      (c.rest.drop (Scan.groupRest o depth c).width) a) :
    Scans o depth c.offset c.rest (Scan.groupRest o depth c ++ a) := by
  fun_induction Scan.groupRest o depth c with
  | case1 c => simpa using ha
  | case2 c outer h ih =>
    -- the pattern ends inside of the group
    obtain ⟨offset, xs⟩ := c
    subst h
    rw [Scan.append_assoc]
    exact close (.inr ⟨rfl, rfl⟩) (ih (by simpa [Nat.add_assoc] using ha))
  | case3 c outer tail h ih =>
    obtain ⟨offset, xs⟩ := c
    subst h
    rw [Scan.append_assoc]
    exact close (.inl rfl) (ih (by simpa [Nat.add_assoc, Nat.add_comm 1] using ha))
  | case4 c outer x tail h hx ho head ih =>
    -- a group opens, and its content is scanned by the same recursion
    obtain ⟨offset, xs⟩ := c
    obtain ⟨rfl, ho⟩ := ho
    subst h
    rw [Scan.append_assoc]
    exact of_opening (.inr ho) (ih (by simpa [Nat.add_assoc] using ha))
  | case5 c outer x tail h hx ho head ih =>
    obtain ⟨offset, xs⟩ := c
    subst h
    rw [Scan.append_assoc]
    refine of_plain (fun h => hx h.1) ?_ (ih (by simpa [Nat.add_assoc] using ha))
    simpa [Options.Opens] using ho

/-- Outside of all groups an item is scanned, and then what follows it. -/
theorem of_item (ha : Scans o 0 (offset + (Scan.item o x ⟨offset, x :: xs⟩).width)
      ((x :: xs).drop (Scan.item o x ⟨offset, x :: xs⟩).width) a) :
    Scans o 0 offset (x :: xs) (Scan.item o x ⟨offset, x :: xs⟩ ++ a) := by
  by_cases hx : x = '('
  · subst hx
    have hi : Scan.item o '(' ⟨offset, '(' :: xs⟩ = .group o ⟨offset, '(' :: xs⟩ := rfl
    rw [hi, Scan.group] at ha ⊢
    rw [Scan.append_assoc]
    refine of_opening (.inl rfl) ?_
    refine of_groupRest (.advance ⟨offset, '(' :: xs⟩ _) ?_
    simpa [Nat.add_assoc] using ha
  · have hi : Scan.item o x ⟨offset, x :: xs⟩ = .plain x ⟨offset, x :: xs⟩ := if_neg hx
    rw [hi] at ha ⊢
    exact of_plain (by simp) (fun h => hx h.1) ha

theorem of_items (c : Cursor) : Scans o 0 c.offset c.rest (Scan.items o c) := by
  fun_induction Scan.items o c with
  | case1 c h => rw [h]; exact done
  | case2 c x tail h head ih =>
    obtain ⟨offset, xs⟩ := c
    subst h
    exact of_item ih

end Scans

/-- A pattern scans to its scan. -/
theorem scans_scan (pattern : String) (o : Options) :
    Scans o 0 0 pattern.toList (scan pattern o) :=
  Scans.of_items (.start pattern.toList)

/-! ## §4 Places in the pattern

What follows a construct stands in the pattern after the characters of the
construct, also where these are cut short: nothing follows there. -/

section Places

variable {pattern : List Char} {offset : Nat} {x y : Char} {body close after : List Char}

theorem drop_add_of_drop {l : List Char} (h : pattern.drop offset = l) (n : Nat) :
    pattern.drop (offset + n) = l.drop n := by
  rw [← h, List.drop_drop]

theorem head?_of_drop {xs : List Char} (h : pattern.drop offset = x :: xs) :
    pattern[offset + 1]? = xs.head? := by
  rw [← List.getElem?_drop, h, List.getElem?_cons_succ, List.head?_eq_getElem?]

theorem length_of_drop {l : List Char} (h : pattern.drop offset = l) :
    l.length = pattern.length - offset := by
  rw [← h, List.length_drop]

theorem drop_after_close (h : pattern.drop offset = close ++ after)
    (hc : ClosedBy y close after) : pattern.drop (offset + 1) = after := by
  rw [drop_add_of_drop h]
  exact @drop_closedBy y [] close after hc

theorem drop_after_body (h : pattern.drop offset = x :: (body ++ (close ++ after)))
    (hc : ClosedBy y close after) : pattern.drop (offset + body.length + 2) = after := by
  rw [Nat.add_assoc, drop_add_of_drop h]
  exact drop_closedBy hc

theorem drop_after_code {kind : Kind} {code : List Char}
    (h : pattern.drop offset = x :: y :: (code ++ after)) (hc : CodeOf kind code after) :
    pattern.drop (offset + kind.codeWidth + 2) = after := by
  rw [Nat.add_assoc, drop_add_of_drop h]
  exact drop_codeOf hc

end Places

end RegexTokens
