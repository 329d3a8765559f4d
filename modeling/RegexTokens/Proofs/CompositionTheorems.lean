/-
RegexTokens.Proofs.CompositionTheorems — where a pattern may be cut in two.

A pattern is complete if its scan ends where the pattern ends: no group,
class, quantifier or escape goes on behind it. The tokens of a complete
pattern and of one that follows it are those of the two, and only of complete
patterns is this true (`tokenize_append_eq_iff`).

Both directions are about the state in which a stream is between the two
patterns. If nothing is left open there it is the state in which every stream
starts, but for the offset, and that only moves the positions. Otherwise the
first pattern alone ends in a token that is cut, which no stream gives out
that goes on (`length_le_cutOffset`), or in a quantifier. A quantifier may
find its brace first thing in the second pattern and then have the token it
has without: but the brace would be a token of the second pattern alone, and
nothing is given out twice at one position.
-/
import RegexTokens.Proofs.PositionTheorems
import RegexTokens.Proofs.StreamEnds
import RegexTokens.Proofs.TranslationTheorems

namespace RegexTokens

namespace Stream.State

variable {o : Options} {depth offset : Nat} {xs : List Char}

/-! ## §1 Streams from a later start -/

/-- Where no construct is open but groups, a stream gives out no position that
it has passed. -/
theorem le_position_of_normal {t : Token} (ht : t ∈ tokens o ⟨.normal, depth, offset⟩ xs) :
    offset ≤ t.position := by
  let c : Cursor := ⟨offset, xs⟩
  let inner := Scan.groupRest o depth c
  let next := c.advance inner.width
  have hscans : Scans o depth offset xs (inner ++ .items o next) :=
    Scans.of_groupRest c (Scans.of_items next)
  have hwithin : (inner ++ .items o next).Within offset :=
    (Scan.within_groupRest o depth c).append (Scan.within_items o next)
  rw [tokens_of_scans hscans] at ht
  exact (hwithin.bounds t ht).1

/-- A stream that starts at an offset gives out the tokens of its characters,
moved on by the offset. -/
theorem tokens_start_shift (o : Options) (offset : Nat) (xs : List Char) :
    tokens o ⟨.normal, 0, offset⟩ xs = (tokens o {} xs).map (Token.shift offset) := by
  have hshift := Scan.items_shift o offset (.start xs)
  have hstart : (Cursor.start xs).shift offset = ⟨offset, xs⟩ := by
    simp [Cursor.start, Cursor.shift]
  have htokens : tokens o {} xs = (Scan.items o (.start xs)).tokens :=
    tokens_of_scans (Scans.of_items (.start xs))
  rw [hstart] at hshift
  rw [tokens_of_scans (Scans.of_items ⟨offset, xs⟩), hshift, Scan.tokens_shift, htokens]

/-! ## §2 States between two patterns -/

/-- A quantifier that goes on is not given out as if it ended. -/
theorem tokens_inQuantifier_ne (body : List Char) (hxs : xs ≠ []) :
    tokens o ⟨.inQuantifier body, depth, offset⟩ xs ≠
      close ⟨.inQuantifier body, depth, offset⟩ ++ tokens o ⟨.normal, 0, offset⟩ xs := by
  obtain ⟨more, braces, after, rfl, hmore, hbraces⟩ := exists_closedBy '}' xs
  have hlead : Leads o ⟨.inQuantifier body, depth, offset⟩ (more ++ (braces ++ after))
      [step.quantifier (body ++ more) (offset + more.length)]
      ⟨.normal, depth, offset + more.length + 1⟩ after :=
    (leads_inQuantifier hmore).trans (leads_inQuantifier_end hbraces)
  have hclose : close ⟨.inQuantifier body, depth, offset⟩ = step.quantifier body offset ::
      (List.range' (offset + 1) depth).map fun position => ⟨.groupClose, "", position⟩ := rfl
  intro heq
  rw [hlead.tokens_eq, hclose, List.singleton_append, List.cons_append, List.cons.injEq] at heq
  obtain ⟨hhead, htail⟩ := heq
  have hposition : offset + more.length = offset := congrArg Token.position hhead
  have hnil : more = [] := List.length_eq_zero_iff.1 (by omega)
  subst hnil
  rcases hbraces with rfl | ⟨rfl, rfl⟩
  · -- the brace is a token if a pattern starts with it
    have hbrace : Leads o ⟨.normal, 0, offset⟩ ('}' :: after)
        [⟨.ofSymbol '}', String.singleton '}', offset⟩] ⟨.normal, 0, offset + 1⟩ after :=
      leads_of_rule (.symbol (isPlain_normal _) (by simp) (by simp) (by simp)) after
    have hmem : ⟨.ofSymbol '}', String.singleton '}', offset⟩ ∈
        tokens o ⟨.normal, depth, offset + 1⟩ after := by
      rw [List.length_nil, Nat.add_zero] at htail
      rw [htail, List.nil_append, List.singleton_append, hbrace.tokens_eq]
      exact List.mem_append_right _ List.mem_cons_self
    exact absurd (le_position_of_normal hmem) (Nat.not_succ_le_self offset)
  · exact hxs rfl

/-- What a state gives out for more characters is what it leaves open and then
the tokens of these characters alone exactly if it leaves nothing open. -/
theorem tokens_eq_close_append_iff {s : State} (hs : s.Consistent) :
    tokens o s xs = s.close ++ tokens o ⟨.normal, 0, s.offset⟩ xs ↔
      s.closeOffset = s.offset ∨ xs = [] := by
  constructor
  · intro heq
    by_cases hopen : s.closeOffset = s.offset
    · exact .inl hopen
    · refine .inr (Classical.byContradiction fun hxs => ?_)
      rcases hs.exists_isCut_or_inQuantifier hopen with ⟨t, ht, hcut, hoffset⟩ | ⟨body, hmode⟩
      · have hmem : t ∈ tokens o s xs := by
          rw [heq]
          exact List.mem_append_left _ ht
        have hle := length_le_cutOffset hs hmem hcut
        have hpos := List.length_pos_iff.2 hxs
        omega
      · obtain ⟨mode, depth, offset⟩ := s
        dsimp only at hmode
        subst hmode
        exact tokens_inQuantifier_ne body hxs heq
  · rintro (hclosed | rfl)
    · rw [hs.closeOffset_eq_iff] at hclosed
      rw [hclosed]
      rfl
    · rw [tokens_nil, tokens_nil]
      exact (List.append_nil _).symm

end Stream.State

/-! ## §3 Patterns -/

/-- The scan of a pattern ends where the pattern ends. -/
def Complete (pattern : String) (o : Options) : Prop :=
  (scan pattern o).width = pattern.length

/-- The scan of a pattern ends behind all that the stream of its characters
leaves open. -/
theorem width_scan (pattern : String) (o : Options) :
    (scan pattern o).width = (Stream.State.run o {} pattern.toList).closeOffset := by
  have h := (Stream.State.yields_of_scans (scans_scan pattern o)).closeOffset_eq
  rw [Nat.zero_add] at h
  exact h.symm

/-- The tokens of two patterns put together are the tokens of the first and
then of the second, moved on by the length of the first, exactly if the first
is complete or the second is empty. -/
theorem tokenize_append_eq_iff (p q : String) (o : Options) :
    tokenize (p ++ q) o = tokenize p o ++ (tokenize q o).map (Token.shift p.length) ↔
      Complete p o ∨ q = "" := by
  let s := Stream.State.run o {} p.toList
  have hs : s.Consistent := Stream.State.consistent_start.run p.toList
  have hoffset : s.offset = p.length := by
    rw [Stream.State.offset_run, String.length_toList, Nat.zero_add]
  have hq : q = "" ↔ q.toList = [] := by simp
  rw [Complete, width_scan, ← hoffset, hq, ← Stream.State.tokens_eq_close_append_iff hs]
  rw [tokenize_eq_stream, tokenize_eq_stream, tokenize_eq_stream, String.toList_append,
    Stream.tokens, Stream.tokens, Stream.tokens, ← Stream.State.tokens_start_shift,
    Stream.State.tokens_append, Stream.State.tokens_eq_emitted_append o {} p.toList,
    List.append_assoc, List.append_cancel_left_eq]

end RegexTokens
