/-
RegexTokens.Proofs.StreamTheorems — the scan of a pattern and the stream of
its tokens are the same.

The scan searches for the closing character of a construct and keeps the open
groups in its recursion; the stream has one state and reads one character at
a time. `Leads` says how far a stream has come: what it gave out, and from
which state and characters on all the rest is the same. Steps lead from one
character to the next (§1), and over a whole construct, closed or cut off by
the end of the pattern, the stream leads to the place behind it (§2).

`yields_of_scans` is the simulation, on a derivation, with one case for each
construct: what scans inside of `depth` open groups to `a` gives out the
tokens of `a` from the state of that depth, and ends where `a` ends. It also
says that a derivation can only yield the tokens of the pattern
(`Scans.tokenize_eq`).
-/
import RegexTokens.Proofs.StreamSteps

namespace RegexTokens

namespace Stream.State

variable {o : Options} {depth offset : Nat} {xs : List Char}

/-! ## §1 Runs -/

@[simp] theorem tokens_nil (o : Options) (s : State) : tokens o s [] = s.close := rfl

theorem tokens_cons (o : Options) (s : State) (x : Char) (xs : List Char) :
    tokens o s (x :: xs) = (s.step o x).tokens ++ tokens o (s.after o x) xs := rfl

/-- The state after some characters. -/
def run (o : Options) (s : State) (xs : List Char) : State := xs.foldl (after o) s

@[simp] theorem run_nil (o : Options) (s : State) : run o s [] = s := rfl

@[simp] theorem run_cons (o : Options) (s : State) (x : Char) (xs : List Char) :
    run o s (x :: xs) = run o (s.after o x) xs := rfl

/-- The offset behind all that a state leaves open: the token in progress, and
the closing token of each open group. -/
def closeOffset (s : State) : Nat := s.closeMode.2 + s.depth

/-- From `s` on `ts` is given out for `xs`, and then all that is given out for
`ys` from `t` on. Both end at the same offset. -/
structure Leads (o : Options) (s : State) (xs : List Char) (ts : List Token) (t : State)
    (ys : List Char) : Prop where
  tokens_eq : tokens o s xs = ts ++ tokens o t ys
  closeOffset_eq : (run o s xs).closeOffset = (run o t ys).closeOffset

theorem Leads.trans {s t u : State} {xs ys zs : List Char} {ts us : List Token}
    (h : Leads o s xs ts t ys) (h' : Leads o t ys us u zs) : Leads o s xs (ts ++ us) u zs := by
  refine ⟨?_, h.closeOffset_eq.trans h'.closeOffset_eq⟩
  rw [h.tokens_eq, h'.tokens_eq, List.append_assoc]

/-- A character leads to where its step does. -/
theorem leads_of_rule {s : State} {x : Char} {t : Step} (h : Rule o s x t) (xs : List Char) :
    Leads o s (x :: xs) t.tokens ⟨t.mode, t.depth, s.offset + 1⟩ xs := by
  rw [← h.step_eq]
  exact ⟨rfl, rfl⟩

/-- A character that is not about the opening of a group leads to where it
does outside of all constructs. -/
theorem leads_of_isPlain {mode : Mode} {x : Char} (h : IsPlain mode x) (xs : List Char) :
    Leads o ⟨mode, depth, offset⟩ (x :: xs) [] ⟨.normal, depth, offset⟩ (x :: xs) := by
  have hstep : (⟨mode, depth, offset⟩ : State).step o x
      = (⟨.normal, depth, offset⟩ : State).step o x := step_of_isPlain h o depth offset
  have hafter : (⟨mode, depth, offset⟩ : State).after o x
      = (⟨.normal, depth, offset⟩ : State).after o x := by
    rw [after, after, hstep]
  refine ⟨?_, ?_⟩
  · rw [tokens_cons, tokens_cons, hstep, hafter, List.nil_append]
  · rw [run_cons, run_cons, hafter]

/-- Each open group is closed at the end, the innermost first. -/
theorem leads_end_succ (o : Options) (depth offset : Nat) :
    Leads o ⟨.normal, depth + 1, offset⟩ [] [⟨.groupClose, "", offset⟩]
      ⟨.normal, depth, offset + 1⟩ [] := by
  refine ⟨?_, ?_⟩
  · simp [close, closeMode, List.range'_succ]
  · simp only [run_nil, closeOffset, closeMode]
    omega

/-! ## §2 Runs over constructs -/

/-- A question mark after the parenthesis of a group is held back. -/
theorem leads_mark (h : o.Opens depth) (offset : Nat) (xs : List Char) :
    Leads o ⟨.normal, depth, offset⟩ ('(' :: '?' :: xs) [⟨.groupOpen, "(", offset⟩]
      ⟨.afterMark, depth + 1, offset + 2⟩ xs :=
  (leads_of_rule (.opens (isPlain_normal _) h) _).trans (leads_of_rule .mark xs)

/-- After the opening of a group a character that is no question mark is read
as anywhere else. -/
theorem leads_afterOpen (h : xs.head? ≠ some '?') :
    Leads o ⟨.afterOpen, depth, offset⟩ xs [] ⟨.normal, depth, offset⟩ xs := by
  cases xs with
  | nil => exact ⟨rfl, rfl⟩
  | cons x xs =>
    have hx : x ≠ '?' := by simpa using h
    exact leads_of_isPlain (isPlain_afterOpen hx) xs

theorem leads_afterMark (h : xs.head? ≠ some '=') (h' : xs.head? ≠ some '!') :
    Leads o ⟨.afterMark, depth, offset⟩ xs [] ⟨.normal, depth, offset⟩ xs := by
  cases xs with
  | nil => exact ⟨rfl, rfl⟩
  | cons x xs =>
    have hx : x ≠ '=' := by simpa using h
    have hx' : x ≠ '!' := by simpa using h'
    exact leads_of_isPlain (isPlain_afterMark hx hx') xs

/-- Characters that do not close a class are its members. -/
theorem leads_inClass {body : List Char} (hb : ']' ∉ body) :
    Leads o ⟨.inClass, depth, offset⟩ (body ++ xs) (memberTokens body offset)
      ⟨.inClass, depth, offset + body.length⟩ xs := by
  induction body generalizing offset with
  | nil => exact ⟨rfl, rfl⟩
  | cons x body ih =>
    have hx : x ≠ ']' := fun h => hb (by simp [h])
    have hrest : Leads o ⟨.inClass, depth, offset + 1⟩ (body ++ xs)
        (memberTokens body (offset + 1)) ⟨.inClass, depth, offset + 1 + body.length⟩ xs :=
      ih fun h => hb (List.mem_cons_of_mem _ h)
    rw [List.length_cons, Nat.add_comm body.length, ← Nat.add_assoc]
    exact (leads_of_rule (.member hx) _).trans hrest

/-- The end of a class, with or without its bracket. -/
theorem leads_inClass_end {close : List Char} (hc : ClosedBy ']' close xs) :
    Leads o ⟨.inClass, depth, offset⟩ (close ++ xs) [⟨.rangeClose, String.ofList close, offset⟩]
      ⟨.normal, depth, offset + 1⟩ xs := by
  rcases hc with rfl | ⟨rfl, rfl⟩
  · exact ⟨rfl, rfl⟩
  · exact ⟨rfl, rfl⟩

/-- A class, from its bracket on. -/
theorem leads_charClass {body close : List Char} (hb : ']' ∉ body) (hc : ClosedBy ']' close xs) :
    Leads o ⟨.normal, depth, offset⟩ ('[' :: (body ++ (close ++ xs)))
      (⟨.rangeOpen, "[", offset⟩ :: memberTokens body (offset + 1) ++
        [⟨.rangeClose, String.ofList close, offset + 1 + body.length⟩])
      ⟨.normal, depth, offset + body.length + 2⟩ xs := by
  rw [show offset + body.length + 2 = offset + 1 + body.length + 1 by omega]
  exact ((leads_of_rule (.bracket (isPlain_normal _)) _).trans (leads_inClass hb)).trans
    (leads_inClass_end hc)

/-- Characters that do not close a quantifier are kept. -/
theorem leads_inQuantifier {body more : List Char} (hm : '}' ∉ more) :
    Leads o ⟨.inQuantifier body, depth, offset⟩ (more ++ xs) []
      ⟨.inQuantifier (body ++ more), depth, offset + more.length⟩ xs := by
  induction more generalizing body offset with
  | nil =>
    rw [List.append_nil]
    exact ⟨rfl, rfl⟩
  | cons x more ih =>
    have hx : x ≠ '}' := fun h => hm (by simp [h])
    have hrest : Leads o ⟨.inQuantifier (body ++ [x]), depth, offset + 1⟩ (more ++ xs) []
        ⟨.inQuantifier (body ++ [x] ++ more), depth, offset + 1 + more.length⟩ xs :=
      ih fun h => hm (List.mem_cons_of_mem _ h)
    rw [List.append_assoc, List.singleton_append] at hrest
    rw [List.length_cons, Nat.add_comm more.length, ← Nat.add_assoc]
    exact (leads_of_rule (.bodyChar hx) _).trans hrest

/-- The end of a quantifier, with or without its brace. -/
theorem leads_inQuantifier_end {body close : List Char} (hc : ClosedBy '}' close xs) :
    Leads o ⟨.inQuantifier body, depth, offset⟩ (close ++ xs) [step.quantifier body offset]
      ⟨.normal, depth, offset + 1⟩ xs := by
  rcases hc with rfl | ⟨rfl, rfl⟩
  · exact ⟨rfl, rfl⟩
  · exact ⟨rfl, rfl⟩

/-- A quantifier, from its brace on. -/
theorem leads_quantifier {body close : List Char} (hb : '}' ∉ body)
    (hc : ClosedBy '}' close xs) :
    Leads o ⟨.normal, depth, offset⟩ ('{' :: (body ++ (close ++ xs)))
      [step.quantifier body (offset + 1 + body.length)]
      ⟨.normal, depth, offset + body.length + 2⟩ xs := by
  rw [show offset + body.length + 2 = offset + 1 + body.length + 1 by omega]
  exact ((leads_of_rule (.brace (isPlain_normal _)) _).trans (leads_inQuantifier hb)).trans
    (leads_inQuantifier_end hc)

/-- Characters of a code are kept as long as more of them are to come. -/
theorem leads_inCode {marker : Char} {place : Nat} {code more : List Char}
    (h : code.length + more.length < (Kind.ofEscaped marker).codeWidth) :
    Leads o ⟨.inCode marker place code, depth, offset⟩ (more ++ xs) []
      ⟨.inCode marker place (code ++ more), depth, offset + more.length⟩ xs := by
  induction more generalizing code offset with
  | nil =>
    rw [List.append_nil]
    exact ⟨rfl, rfl⟩
  | cons x more ih =>
    rw [List.length_cons] at h
    have hx : code.length + 1 ≠ (Kind.ofEscaped marker).codeWidth := by omega
    have hlen : (code ++ [x]).length + more.length < (Kind.ofEscaped marker).codeWidth := by
      rw [List.length_append, List.length_singleton]
      omega
    have hrest : Leads o ⟨.inCode marker place (code ++ [x]), depth, offset + 1⟩ (more ++ xs) []
        ⟨.inCode marker place (code ++ [x] ++ more), depth, offset + 1 + more.length⟩ xs :=
      ih hlen
    rw [List.append_assoc, List.singleton_append] at hrest
    rw [List.length_cons, Nat.add_comm more.length, ← Nat.add_assoc]
    exact (leads_of_rule (.codeChar hx) _).trans hrest

/-- An escape is given out at the last character of its code. -/
theorem leads_inCode_full {marker : Char} {place : Nat} {code : List Char} (hne : code ≠ [])
    (h : code.length = (Kind.ofEscaped marker).codeWidth) :
    Leads o ⟨.inCode marker place [], depth, offset⟩ (code ++ xs) [step.escape marker code place]
      ⟨.normal, depth, offset + code.length⟩ xs := by
  obtain ⟨front, last, rfl⟩ : ∃ front last, code = front ++ [last] :=
    ⟨_, _, (List.dropLast_concat_getLast hne).symm⟩
  rw [List.length_append, List.length_singleton] at h ⊢
  have hfront : ([] : List Char).length + front.length < (Kind.ofEscaped marker).codeWidth := by
    rw [List.length_nil]
    omega
  rw [List.append_assoc]
  exact (leads_inCode hfront).trans (leads_of_rule (.codeEnd h) xs)

/-- An escape after its backslash, with all of its code. -/
theorem leads_afterBackslash {marker : Char} {code : List Char}
    (hc : CodeOf (.ofEscaped marker) code xs) :
    Leads o ⟨.afterBackslash, depth, offset⟩ (marker :: (code ++ xs))
      [step.escape marker code offset]
      ⟨.normal, depth, offset + (Kind.ofEscaped marker).codeWidth + 1⟩ xs := by
  by_cases hw : (Kind.ofEscaped marker).codeWidth = 0
  · have hnil : code = [] := by
      rcases hc with hc | ⟨hc, -⟩
      · exact List.length_eq_zero_iff.1 (by omega)
      · omega
    rw [hnil, hw]
    exact leads_of_rule (.escaped hw) xs
  · refine (leads_of_rule (.marker hw) _).trans ?_
    rcases hc with hc | ⟨hc, rfl⟩
    · rw [Nat.add_right_comm, ← hc]
      exact leads_inCode_full (by rintro rfl; exact hw hc.symm) hc
    · -- the end of the pattern cuts the code
      have hcut : ([] : List Char).length + code.length < (Kind.ofEscaped marker).codeWidth := by
        simpa using hc
      exact (leads_inCode hcut).trans ⟨rfl, rfl⟩

/-- An escape, from its backslash on. -/
theorem leads_escape {marker : Char} {code : List Char}
    (hc : CodeOf (.ofEscaped marker) code xs) :
    Leads o ⟨.normal, depth, offset⟩ ('\\' :: marker :: (code ++ xs))
      [step.escape marker code (offset + 1)]
      ⟨.normal, depth, offset + (Kind.ofEscaped marker).codeWidth + 2⟩ xs := by
  rw [show offset + (Kind.ofEscaped marker).codeWidth + 2
    = offset + 1 + (Kind.ofEscaped marker).codeWidth + 1 by omega]
  exact (leads_of_rule (.backslash (isPlain_normal _)) _).trans (leads_afterBackslash hc)

/-! ## §3 Scans and streams -/

/-- From a state on the tokens of a scan are given out, and the stream ends
where the scan does. -/
structure Yields (o : Options) (s : State) (xs : List Char) (a : Scan) : Prop where
  tokens_eq : tokens o s xs = a.tokens
  closeOffset_eq : (run o s xs).closeOffset = s.offset + a.width

theorem Yields.of_leads {s t : State} {ys : List Char} {a b : Scan} (ha : Yields o t ys a)
    (h : Leads o s xs b.tokens t ys) (ht : t.offset = s.offset + b.width) :
    Yields o s xs (b ++ a) := by
  refine ⟨?_, ?_⟩
  · rw [h.tokens_eq, ha.tokens_eq, Scan.tokens_append]
  · rw [h.closeOffset_eq, ha.closeOffset_eq, ht, Scan.width_append, Nat.add_assoc]

/-- What scans to `a` yields `a`. -/
theorem yields_of_scans {a : Scan} (h : Scans o depth offset xs a) :
    Yields o ⟨.normal, depth, offset⟩ xs a := by
  induction h with
  | done => exact ⟨rfl, rfl⟩
  | close hc _ ih =>
    rcases hc with rfl | ⟨rfl, rfl⟩
    · exact ih.of_leads (leads_of_rule (.closes (isPlain_normal _)) _) rfl
    · exact ih.of_leads (leads_end_succ ..) rfl
  | group hopen hx _ ih =>
    exact ih.of_leads ((leads_of_rule (.opens (isPlain_normal _) hopen) _).trans (leads_afterOpen hx)) rfl
  | mark hopen he hn _ ih =>
    exact ih.of_leads ((leads_mark hopen ..).trans (leads_afterMark he hn)) rfl
  | lookahead hopen _ ih =>
    exact ih.of_leads ((leads_mark hopen ..).trans (leads_of_rule .lookahead _)) rfl
  | negLookahead hopen _ ih =>
    exact ih.of_leads ((leads_mark hopen ..).trans (leads_of_rule .negLookahead _)) rfl
  | symbol hclose hopen hx _ ih =>
    exact ih.of_leads (leads_of_rule (.symbol (isPlain_normal _) hclose hopen hx) _) rfl
  | charClass hb hc _ ih =>
    refine ih.of_leads (leads_charClass hb hc) ?_
    simp [Nat.add_assoc]
  | quantifier hb hc _ ih =>
    refine ih.of_leads (leads_quantifier hb hc) ?_
    simp [Nat.add_assoc]
  | escape hc _ ih =>
    refine ih.of_leads (leads_escape hc) ?_
    simp [Nat.add_assoc]
  | backslash _ ih =>
    exact ih.of_leads ((leads_of_rule (.backslash (isPlain_normal _)) _).trans ⟨rfl, rfl⟩) rfl

/-- What scans to `a` gives out the tokens of `a`. -/
theorem tokens_of_scans {a : Scan} (h : Scans o depth offset xs a) :
    tokens o ⟨.normal, depth, offset⟩ xs = a.tokens :=
  (yields_of_scans h).tokens_eq

/-! ## §4 Streams as folds -/

/-- The state of a machine and all it has given out, after one more
character. -/
def feed (o : Options) (m : State × List Token) (x : Char) : State × List Token :=
  (m.1.after o x, m.2 ++ (m.1.step o x).tokens)

/-- What has been given out goes before what is still to come. -/
theorem append_tokens_eq_foldl (o : Options) (s : State) (ts : List Token) (xs : List Char) :
    ts ++ tokens o s xs =
      (xs.foldl (feed o) (s, ts)).2 ++ (xs.foldl (feed o) (s, ts)).1.close := by
  induction xs generalizing s ts with
  | nil => rfl
  | cons x xs ih =>
    rw [tokens_cons, ← List.append_assoc, ih]
    rfl

end Stream.State

/-- The tokens of a pattern are those of its stream. -/
theorem tokenize_eq_stream (pattern : String) (o : Options) :
    tokenize pattern o = Stream.tokens o pattern.toList :=
  (Stream.State.tokens_of_scans (scans_scan pattern o)).symm

/-- Whatever a pattern scans to has the tokens of the pattern. -/
theorem Scans.tokenize_eq {pattern : String} {o : Options} {a : Scan}
    (h : Scans o 0 0 pattern.toList a) : tokenize pattern o = a.tokens := by
  rw [tokenize_eq_stream]
  exact Stream.State.tokens_of_scans h

/-- The tokens of a pattern are those of a machine that reads it from left to
right, a character at a time: what it gives out on the way, and what is left
to give out at the end. -/
theorem tokenize_eq_foldl (pattern : String) (o : Options) :
    tokenize pattern o =
      let (s, ts) := pattern.toList.foldl (Stream.State.feed o) ({}, [])
      ts ++ s.close := by
  rw [tokenize_eq_stream]
  exact Stream.State.append_tokens_eq_foldl o {} [] pattern.toList

end RegexTokens
