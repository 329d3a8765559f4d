/-
RegexTokens.Proofs.LocationTheorems — every token of a pattern is found in it.

What remains of a pattern stands in it from an offset on, and by induction on
its derivation each token is found where it is recorded
(`Scans.locatedFrom`). A token is told where it is by the characters of its own
construct, which the rule of the construct names, so that it does not matter
what the constructs before it were: only an assertion looks back, and no
further than to the parenthesis of its own group.
-/
import RegexTokens.Location
import RegexTokens.Proofs.StreamTheorems

namespace RegexTokens

/-! ## §1 Tokens one by one -/

section Tokens

variable {pattern xs close after : List Char} {x : Char} {offset position : Nat}
  {before : Option Token}

/-- The characters that remain are those of the pattern from the offset on. -/
theorem getElem?_of_drop {l : List Char} (h : pattern.drop offset = l) (i : Nat) :
    pattern[offset + i]? = l[i]? := by
  rw [← h, List.getElem?_drop]

/-- What follows the body of a construct. -/
theorem drop_body {body : List Char} (h : pattern.drop offset = x :: (body ++ after)) :
    pattern.drop (offset + 1 + body.length) = after := by
  rw [Nat.add_assoc, Nat.add_comm 1, drop_add_of_drop h, List.drop_succ_cons, List.drop_left]

theorem standsAt_of_drop {chars : List Char} (h : pattern.drop offset = chars ++ after) :
    StandsAt chars pattern offset := by
  rw [StandsAt, h]
  exact List.prefix_append chars after

namespace Token

theorem isCharIn_singleton (h : pattern.drop position = x :: xs) (kind : Kind) :
    (⟨kind, String.singleton x, position⟩ : Token).IsCharIn pattern x :=
  ⟨getElem?_of_drop h 0, String.toList_singleton x⟩

theorem isCloserIn_closer (h : pattern.drop position = close ++ after)
    (hc : ClosedBy x close after) (kind : Kind) :
    (⟨kind, String.ofList close, position⟩ : Token).IsCloserIn pattern x := by
  rcases hc with rfl | ⟨rfl, rfl⟩
  · exact .inl ⟨getElem?_of_drop h 0, String.toList_ofList⟩
  · exact .inr ⟨List.drop_eq_nil_iff.1 h, rfl⟩

/-- A character that is a token by itself is of the kind that it is listed
under. -/
theorem locatedIn_symbol (h : pattern.drop position = x :: xs) :
    (⟨.ofSymbol x, String.singleton x, position⟩ : Token).LocatedIn pattern before := by
  have hx := fun kind => isCharIn_singleton h kind
  unfold Kind.ofSymbol
  split
  · rename_i hanchor
    exact ⟨x, by simpa using isAnchor_iff.1 hanchor, hx _⟩
  · split
    · rename_i hmeta
      exact ⟨x, by simpa using isMetaChar_iff.1 hmeta, hx _⟩
    · split
      · rename_i hpipe
        subst hpipe
        exact hx _
      · exact ⟨x, hx _⟩

theorem behindBackslashIn_succ (h : pattern.drop offset = '\\' :: xs) (kind : Kind)
    (text : String) : (⟨kind, text, offset + 1⟩ : Token).BehindBackslashIn pattern :=
  ⟨offset, rfl, getElem?_of_drop h 0⟩

/-- The code of an escape is cut where the pattern ends. -/
theorem isEscapeIn_escape {marker : Char} {code : List Char}
    (h : pattern.drop offset = '\\' :: marker :: (code ++ after))
    (hc : CodeOf (.ofEscaped marker) code after) (kind : Kind) :
    (⟨kind, String.ofList ('\\' :: marker :: code), offset + 1⟩ : Token).IsEscapeIn pattern
      marker (Kind.ofEscaped marker).codeWidth := by
  refine ⟨behindBackslashIn_succ h _ _, getElem?_of_drop h 1, ?_⟩
  have hrest : pattern.drop (offset + 1 + 1) = code ++ after := drop_add_of_drop h 2
  rw [String.toList_ofList, hrest, take_codeOf hc]

/-- An escape is of the kind that its marker says. -/
theorem locatedIn_escape {marker : Char} {code : List Char}
    (h : pattern.drop offset = '\\' :: marker :: (code ++ after))
    (hc : CodeOf (.ofEscaped marker) code after) :
    (⟨.ofEscaped marker, String.ofList ('\\' :: marker :: code), offset + 1⟩ :
      Token).LocatedIn pattern before := by
  have hescape := fun kind => isEscapeIn_escape h hc kind
  generalize hkind : Kind.ofEscaped marker = kind at hescape ⊢
  unfold Kind.ofEscaped at hkind
  split at hkind
  · rename_i hu
    subst hkind hu
    exact hescape _
  · rename_i hu
    split at hkind
    · rename_i hx
      subst hkind hx
      exact hescape _
    · rename_i hx
      split at hkind
      · rename_i hdigit
        subst hkind
        exact ⟨marker, hdigit, hescape _⟩
      · rename_i hdigit
        subst hkind
        exact .inl ⟨marker, hu, hx, Bool.eq_false_iff.2 hdigit, hescape _⟩

/-- A backslash that nothing follows is recorded at the end of the pattern. -/
theorem locatedIn_backslash (h : pattern.drop offset = ['\\']) :
    (⟨.escape, "\\", offset + 1⟩ : Token).LocatedIn pattern before := by
  have hlength := length_of_drop h
  rw [List.length_singleton] at hlength
  refine .inr ⟨behindBackslashIn_succ h _ _, ?_, rfl⟩
  dsimp only
  omega

theorem locatedIn_quantifier {body : List Char}
    (h : pattern.drop offset = '{' :: (body ++ (close ++ after))) (hb : '}' ∉ body)
    (hc : ClosedBy '}' close after) :
    (⟨.quantifier, String.ofList ('{' :: body ++ ['}']), offset + 1 + body.length⟩ :
      Token).LocatedIn pattern before := by
  refine ⟨body, offset, rfl, hb, String.toList_ofList, standsAt_of_drop h, ?_⟩
  rcases hc with rfl | ⟨rfl, rfl⟩
  · exact .inl (getElem?_of_drop (drop_body h) 0)
  · have hlength := length_of_drop h
    simp only [List.append_nil, List.length_cons] at hlength
    refine .inr ?_
    dsimp only
    omega

/-- What a question mark says about a group is recorded behind the opening of
this group. -/
theorem isAssertionIn_opening (h : pattern.drop offset = '(' :: '?' :: x :: xs) (kind : Kind)
    (text : String) :
    (⟨kind, text, offset + 2⟩ : Token).IsAssertionIn pattern x
      (some ⟨.groupOpen, "(", offset⟩) :=
  ⟨offset, rfl, standsAt_of_drop h, rfl⟩

end Token

end Tokens

/-! ## §2 Tokens one after the other -/

/-- The tokens are found in the pattern, where `before` is the token before
the first of them. -/
def LocatedFrom (pattern : List Char) : Option Token → List Token → Prop
  | _, [] => True
  | before, t :: ts => t.LocatedIn pattern before ∧ LocatedFrom pattern (some t) ts

theorem locatedFrom_append {pattern : List Char} {before : Option Token} {ts us : List Token} :
    LocatedFrom pattern before (ts ++ us) ↔
      LocatedFrom pattern before ts ∧ LocatedFrom pattern (ts.getLast?.or before) us := by
  induction ts generalizing before with
  | nil => simp [LocatedFrom]
  | cons t ts ih =>
    have hlast : (t :: ts).getLast?.or before = ts.getLast?.or (some t) := by
      rw [List.getLast?_cons]
      cases ts.getLast? <;> rfl
    rw [List.cons_append, LocatedFrom, LocatedFrom, ih, hlast, and_assoc]

theorem locatedFrom_memberTokens {pattern chars after : List Char} {offset : Nat}
    (h : pattern.drop offset = chars ++ after) (before : Option Token) :
    LocatedFrom pattern before (memberTokens chars offset) := by
  induction chars generalizing offset before with
  | nil => trivial
  | cons x chars ih =>
    exact ⟨⟨x, Token.isCharIn_singleton h _⟩, ih (drop_add_of_drop h 1) _⟩

/-! ## §3 Patterns -/

/-- What remains of a pattern has its tokens where they are recorded, whatever
came before. -/
theorem Scans.locatedFrom {o : Options} {depth offset : Nat} {pattern xs : List Char} {a : Scan}
    (h : Scans o depth offset xs a) (hp : pattern.drop offset = xs) (before : Option Token) :
    LocatedFrom pattern before a.tokens := by
  have hopen : ∀ {ys : List Char} {position : Nat}, pattern.drop position = '(' :: ys →
      ∀ before, (⟨.groupOpen, "(", position⟩ : Token).LocatedIn pattern before :=
    fun hdrop _ => Token.isCharIn_singleton hdrop _
  induction h generalizing before with
  | done => trivial
  | close hc _ ih => exact ⟨Token.isCloserIn_closer hp hc _, ih (drop_after_close hp hc) _⟩
  | group _ _ _ ih => exact ⟨hopen hp _, ih (drop_add_of_drop hp 1) _⟩
  | mark _ _ _ _ ih => exact ⟨hopen hp _, ih (drop_add_of_drop hp 2) _⟩
  | lookahead _ _ ih =>
    exact ⟨hopen hp _, ⟨Token.isAssertionIn_opening hp _ _, rfl⟩, ih (drop_add_of_drop hp 3) _⟩
  | negLookahead _ _ ih =>
    exact ⟨hopen hp _, ⟨Token.isAssertionIn_opening hp _ _, rfl⟩, ih (drop_add_of_drop hp 3) _⟩
  | symbol _ _ _ _ ih => exact ⟨Token.locatedIn_symbol hp, ih (drop_add_of_drop hp 1) _⟩
  | @charClass depth offset body close xs a hb hc _ ih =>
    have hbody : pattern.drop (offset + 1) = body ++ (close ++ xs) := drop_add_of_drop hp 1
    rw [Scan.tokens_append, Scan.tokens_append, locatedFrom_append, locatedFrom_append]
    exact ⟨⟨⟨Token.isCharIn_singleton hp _, locatedFrom_memberTokens hbody _⟩,
      Token.isCloserIn_closer (drop_body hp) hc _, trivial⟩, ih (drop_after_body hp hc) _⟩
  | quantifier hb hc _ ih =>
    exact ⟨Token.locatedIn_quantifier hp hb hc, ih (drop_after_body hp hc) _⟩
  | escape hc _ ih => exact ⟨Token.locatedIn_escape hp hc, ih (drop_after_code hp hc) _⟩
  | backslash _ ih => exact ⟨Token.locatedIn_backslash hp, ih (drop_add_of_drop hp 2) _⟩

/-- Each token of a pattern is found in it at its position, and each assertion
behind the opening of its group. -/
theorem locatedIn_of_tokenize_eq {pattern : String} {o : Options} {before after : List Token}
    {t : Token} (h : tokenize pattern o = before ++ t :: after) :
    t.LocatedIn pattern.toList before.getLast? := by
  have hall : LocatedFrom pattern.toList none (tokenize pattern o) :=
    (scans_scan pattern o).locatedFrom List.drop_zero none
  rw [h, locatedFrom_append, Option.or_none] at hall
  exact hall.2.1

/-- A lookahead, and behind it a code that the end of the pattern cuts short. -/
theorem locatedIn_of_tokenize_eq_lookahead :
    tokenize "(?=\\u1" = [⟨.groupOpen, "(", 0⟩] ++ ⟨.lookahead, "(?=", 2⟩ ::
        [⟨.unicodeEscape, "\\u1", 4⟩, ⟨.groupClose, "", 9⟩] ∧
      (⟨.lookahead, "(?=", 2⟩ : Token).LocatedIn "(?=\\u1".toList (some ⟨.groupOpen, "(", 0⟩) ∧
      (⟨.unicodeEscape, "\\u1", 4⟩ : Token).LocatedIn "(?=\\u1".toList
        (some ⟨.lookahead, "(?=", 2⟩) := by
  have h : tokenize "(?=\\u1" = [⟨.groupOpen, "(", 0⟩] ++ ⟨.lookahead, "(?=", 2⟩ ::
      [⟨.unicodeEscape, "\\u1", 4⟩, ⟨.groupClose, "", 9⟩] := by
    rw [tokenize_eq_stream]
    rfl
  have h' : tokenize "(?=\\u1" = [⟨.groupOpen, "(", 0⟩, ⟨.lookahead, "(?=", 2⟩] ++
      ⟨.unicodeEscape, "\\u1", 4⟩ :: [⟨.groupClose, "", 9⟩] := h
  exact ⟨h, locatedIn_of_tokenize_eq h, locatedIn_of_tokenize_eq h'⟩

end RegexTokens
