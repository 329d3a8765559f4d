/-
RegexTokens.Proofs.TraceTheorems — the events of a scan are told by its
tokens.

An event is recorded where a construct is entered or a character is missing,
a token where it is complete: a quantifier at its end, an escape at its
marker, the closing token of a group behind everything inside of it. Still
each rule of a derivation joins scans whose events go with their own tokens
(`Scan.Traced`). The opening of a group and its closing token are two such
scans, whatever stands between them, so the rules for groups need nothing
about what is inside.

§2 has the scans that the rules are made of. §3 puts them together and writes
out what is reported along with a token.
-/
import RegexTokens.Proofs.Derivation
import RegexTokens.TokenTrace

namespace RegexTokens

/-! ## §1 Traced scans -/

/-- The events of a scan are those that go with its tokens, in order. -/
def Scan.Traced (a : Scan) : Prop := a.events = a.tokens.flatMap Token.events

theorem Scan.traced_empty : empty.Traced := rfl

theorem Scan.Traced.append {a b : Scan} (ha : a.Traced) (hb : b.Traced) : (a ++ b).Traced := by
  unfold Scan.Traced at ha hb ⊢
  rw [events_append, tokens_append, List.flatMap_append, ha, hb]

/-! ## §2 Scans of constructs -/

theorem Token.events_eq_nil {t : Token}
    (ht : t.kind ∈ [.char, .metaChar, .pipe, .anchor, .lookahead, .negLookahead]) :
    t.events = [] := by
  unfold events
  split <;> simp_all

theorem events_memberTokens (chars : List Char) (offset : Nat) :
    (memberTokens chars offset).flatMap Token.events = [] := by
  rw [List.flatMap_eq_nil_iff]
  intro t ht
  refine Token.events_eq_nil ?_
  rw [kind_of_mem_memberTokens ht]
  decide

namespace Scan

variable {offset : Nat}

theorem traced_symbol (x : Char) : (single (.ofSymbol x) (.singleton x) offset).Traced := by
  have hkind : Kind.ofSymbol x ∈
      [.char, .metaChar, .pipe, .anchor] ++ [.lookahead, .negLookahead] :=
    List.mem_append_left _ (Kind.ofSymbol_mem x)
  unfold Traced
  rw [tokens_single, List.flatMap_singleton, Token.events_eq_nil hkind, events_single]

/-- A closing token tells by its text whether its character is there. -/
theorem traced_closer {kind : Kind} (hk : kind = .groupClose ∨ kind = .rangeClose)
    (close : List Char) : (closer kind close offset).Traced := by
  have htext : String.ofList close = "" ↔ close = [] := by
    rw [← String.toList_inj, String.toList_ofList, String.toList_empty]
  rcases hk with rfl | rfl <;> simp [Traced, closer, Token.events, htext]

theorem traced_charClass (body : List Char) :
    (⟨⟨.rangeOpen, "[", offset⟩ :: memberTokens body (offset + 1),
      [.entered .charClass offset], body.length + 1⟩ : Scan).Traced := by
  unfold Traced
  rw [List.flatMap_cons, events_memberTokens]
  rfl

/-- A quantifier starts as far before its end as its text is long. -/
theorem traced_quantifier (body : List Char) :
    (⟨[⟨.quantifier, String.ofList ('{' :: body ++ ['}']), offset + 1 + body.length⟩],
      [.entered .quantifier offset], body.length + 2⟩ : Scan).Traced := by
  have hlength : (String.ofList ('{' :: body ++ ['}'])).length = body.length + 2 := by
    rw [String.length_ofList, List.length_append]
    rfl
  have hstart : offset + 1 + body.length - (body.length + 2 - 1) = offset := by
    omega
  simp only [Traced, List.flatMap_singleton, Token.events, hlength, hstart]

/-- The text of an escape is shorter by what is missing from its code. -/
theorem traced_escape (marker : Char) (code : List Char) :
    (⟨[⟨.ofEscaped marker, String.ofList ('\\' :: marker :: code), offset + 1⟩],
      .entered .escape offset ::
        if code.length < (Kind.ofEscaped marker).codeWidth then
          [.shortWindow (offset + 2) (Kind.ofEscaped marker).codeWidth] else [],
      (Kind.ofEscaped marker).codeWidth + 2⟩ : Scan).Traced := by
  have hlength : (String.ofList ('\\' :: marker :: code)).length = code.length + 2 :=
    String.length_ofList
  have htext : String.ofList ('\\' :: marker :: code) ≠ "\\" := by
    intro h
    have hchars : '\\' :: marker :: code = ['\\'] := String.ofList_injective h
    exact absurd hchars (by simp)
  have hkind := Kind.ofEscaped_mem marker
  generalize Kind.ofEscaped marker = kind at hkind ⊢
  simp only [List.mem_cons, List.not_mem_nil, or_false] at hkind
  unfold Traced
  rw [List.flatMap_singleton]
  rcases hkind with rfl | rfl | rfl | rfl
  · simp only [Token.events]
    rw [if_neg htext]
    rfl
  · simp only [Token.events, hlength, Kind.codeWidth, Nat.add_lt_add_iff_right]
    rfl
  · simp only [Token.events, hlength, Kind.codeWidth, Nat.add_lt_add_iff_right]
    rfl
  · rfl

end Scan

/-! ## §3 Patterns -/

/-- Every derivation is traced by its tokens. -/
theorem Scans.traced {o : Options} {depth offset : Nat} {xs : List Char} {a : Scan}
    (h : Scans o depth offset xs a) : a.Traced := by
  induction h with
  | done => exact Scan.traced_empty
  | close _ _ ih => exact (Scan.traced_closer (.inl rfl) _).append ih
  | group _ _ _ ih => exact .append rfl ih
  | mark _ _ _ _ ih => exact .append rfl ih
  | lookahead _ _ ih => exact .append rfl ih
  | negLookahead _ _ ih => exact .append rfl ih
  | @symbol _ _ x _ _ _ _ _ _ ih => exact (Scan.traced_symbol x).append ih
  | @charClass _ _ body _ _ _ _ _ _ ih =>
    exact ((Scan.traced_charClass body).append (Scan.traced_closer (.inr rfl) _)).append ih
  | @quantifier _ _ body _ _ _ _ _ _ ih => exact (Scan.traced_quantifier body).append ih
  | @escape _ _ marker code _ _ _ _ ih => exact (Scan.traced_escape marker code).append ih
  | backslash _ ih => exact .append rfl ih

/-- The events of a pattern are those that go with its tokens, and the
summary. -/
theorem trace_eq_flatMap_events (pattern : String) (o : Options) :
    trace pattern o = (tokenize pattern o).flatMap Token.events ++
      [.finished pattern.length (tokenize pattern o).length] := by
  have htraced : (scan pattern o).events = (tokenize pattern o).flatMap Token.events :=
    (scans_scan pattern o).traced
  rw [← htraced]
  rfl

/-- What an event reports: its level, what it says, and its numbers. -/
def Event.report (e : Event) : Level × String × List (String × Nat) :=
  (e.level, e.message, e.fields)

/-- What is reported along with a token. -/
def Token.reports (t : Token) : List (Level × String × List (String × Nat)) :=
  match t.kind with
  | .groupOpen => [(.trace, "group", [("position", t.position)])]
  | .rangeOpen => [(.trace, "character class", [("position", t.position)])]
  | .quantifier =>
    [(.trace, "quantifier", [("position", t.position - (t.text.length - 1))])]
  | .escape =>
    (.trace, "escape", [("position", t.position - 1)]) ::
      if t.text = "\\" then
        [(.trace, "read past end of pattern", [("position", t.position)])] else []
  | .unicodeEscape =>
    (.trace, "escape", [("position", t.position - 1)]) ::
      if t.text.length < 6 then
        [(.trace, "short read past end of pattern",
          [("start", t.position + 1), ("wanted", 4)])] else []
  | .hexEscape =>
    (.trace, "escape", [("position", t.position - 1)]) ::
      if t.text.length < 4 then
        [(.trace, "short read past end of pattern",
          [("start", t.position + 1), ("wanted", 2)])] else []
  | .backreference => [(.trace, "escape", [("position", t.position - 1)])]
  | .groupClose | .rangeClose =>
    if t.text = "" then
      [(.trace, "read past end of pattern", [("position", t.position)])] else []
  | .char | .metaChar | .pipe | .anchor | .lookahead | .negLookahead => []

theorem Token.map_report_events (t : Token) : t.events.map Event.report = t.reports := by
  obtain ⟨kind, text, position⟩ := t
  cases kind with
  | escape | unicodeEscape | hexEscape =>
    unfold events
    rw [List.map_cons, apply_ite (List.map Event.report)]
    rfl
  | groupClose | rangeClose =>
    unfold events
    rw [apply_ite (List.map Event.report)]
    rfl
  | _ => rfl

/-- What is reported of a pattern is, in order, what its tokens tell, and then
how many characters and tokens there are. -/
theorem map_report_trace (pattern : String) (o : Options) :
    (trace pattern o).map Event.report =
      (tokenize pattern o).flatMap Token.reports ++
        [(.debug, "tokenized pattern",
          [("chars", pattern.length), ("tokens", (tokenize pattern o).length)])] := by
  rw [trace_eq_flatMap_events, List.map_append, List.map_flatMap]
  simp only [Token.map_report_events]
  rfl

end RegexTokens
