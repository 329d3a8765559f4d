/-
RegexTokens.Proofs.FaultTheorems — a message tells which fault it is about, and
what is told of a name tells the name.

The messages begin with words of their own, which differ in the eighth
character (`sign`), so a message tells its cause whatever texts it holds
(`sign_eq_of_message_eq`). Behind the words, a text in quotes ends where it is
seen to end (`Text.quoted_append_inj`). So the message of an unreadable input
falls apart in one way only, although its reason is written as it is: a path
with quotes and a colon in it, made to look like a path and a reason, is
written with backslashes before its quotes, and a reason that holds quotes
stands behind the quotes that end the path.

A text that is taken for a name gives the kind it names or a message that
quotes it (`Kind.told`). A kind has one name and a message quotes one text, so
both lead back to the text (`Kind.told_inj`).
-/
import RegexTokens.Fault
import RegexTokens.Proofs.QuotedTheorems

namespace RegexTokens

/-! ## §1 Messages -/

namespace Fault

/-- The eighth character of the message, which tells the causes apart. -/
def sign : Fault → Char
  | unknownKind _ => ' '
  | missingPattern => 'e'
  | unreadableInput .. => 'r'
  | serialization _ => 's'

theorem getElem?_message (f : Fault) : f.message.toList[7]? = some f.sign := by
  cases f with
  | unknownKind name => simp [message_unknownKind, sign]
  | missingPattern => rfl
  | unreadableInput path reason => simp [message_unreadableInput, sign]
  | serialization reason => simp [message_serialization, sign]

theorem sign_eq_of_message_eq {f g : Fault} (h : f.message = g.message) : f.sign = g.sign := by
  have hsign := getElem?_message f
  rw [h, getElem?_message g] at hsign
  exact (Option.some.inj hsign).symm

/-- The path ends at its closing quote, whatever it holds, and the reason is
all that follows the colon. -/
theorem unreadableInput_inj {path path' reason reason' : String}
    (h : (unreadableInput path reason).message = (unreadableInput path' reason').message) :
    path = path' ∧ reason = reason' := by
  have hlist := congrArg String.toList h
  simp only [message_unreadableInput, String.toList_append, List.append_assoc,
    List.append_cancel_left_eq] at hlist
  obtain ⟨hpath, hrest⟩ := Text.quoted_append_inj hlist
  exact ⟨hpath, String.toList_inj.1 (List.append_cancel_left hrest)⟩

-- a quote has a backslash before it in the path and none in the reason
example : (unreadableInput "\"" "\"").message = "cannot read \"\\\"\": \"" := by decide

/-- Messages are the same only if the faults are. -/
theorem message_inj {f g : Fault} (h : f.message = g.message) : f = g := by
  have hsign := sign_eq_of_message_eq h
  -- the signs of two causes differ, so a fault of the same cause is left each time
  cases f with
  | unknownKind name =>
    cases g with
    | unknownKind name' =>
      rw [message_unknownKind, message_unknownKind, String.append_right_inj] at h
      rw [Text.quoted_inj h]
    | _ => simp [sign] at hsign
  | missingPattern =>
    cases g with
    | missingPattern => rfl
    | _ => simp [sign] at hsign
  | unreadableInput path reason =>
    cases g with
    | unreadableInput path' reason' =>
      obtain ⟨rfl, rfl⟩ := unreadableInput_inj h
      rfl
    | _ => simp [sign] at hsign
  | serialization reason =>
    cases g with
    | serialization reason' =>
      rw [message_serialization, message_serialization, String.append_right_inj] at h
      rw [h]
    | _ => simp [sign] at hsign

end Fault

/-! ## §2 Names -/

namespace Kind

/-- What is told of a text that is taken for a name: the kind it names, or the
message of the fault. -/
def told (name : String) : Except String Kind := (parse name).mapError Fault.message

theorem told_of_parse_eq_ok {name : String} {kind : Kind} (h : parse name = .ok kind) :
    told name = .ok kind := by
  rw [told, h]
  rfl

theorem told_of_parse_eq_error {name : String} {f : Fault} (h : parse name = .error f) :
    told name = .error f.message := by
  rw [told, h]
  rfl

theorem told_eq_ok_iff {name : String} {kind : Kind} :
    told name = .ok kind ↔ name = kind.name := by
  rw [← parse_eq_ok_iff]
  cases hparse : parse name with
  | ok kind' => simp [told_of_parse_eq_ok hparse]
  | error f => simp [told_of_parse_eq_error hparse]

theorem told_eq_error_iff {name message : String} :
    told name = .error message ↔
      message = (Fault.unknownKind name).message ∧ ∀ kind : Kind, name ≠ kind.name := by
  constructor
  · intro h
    cases hparse : parse name with
    | ok kind =>
      rw [told_of_parse_eq_ok hparse] at h
      cases h
    | error f =>
      obtain ⟨rfl, hnames⟩ := parse_eq_error_iff.1 hparse
      rw [told_of_parse_eq_error hparse] at h
      exact ⟨(Except.error.inj h).symm, hnames⟩
  · rintro ⟨rfl, hnames⟩
    exact told_of_parse_eq_error (parse_eq_error_iff.2 ⟨rfl, hnames⟩)

/-- A kind has one name, and a message quotes one text. -/
theorem told_inj {s t : String} (h : told s = told t) : s = t := by
  cases hs : told s with
  | ok kind =>
    have ht : told t = .ok kind := h.symm.trans hs
    rw [told_eq_ok_iff.1 hs, told_eq_ok_iff.1 ht]
  | error message =>
    have ht : told t = .error message := h.symm.trans hs
    have hmessage := (told_eq_error_iff.1 hs).1.symm.trans (told_eq_error_iff.1 ht).1
    exact Fault.unknownKind.inj (Fault.message_inj hmessage)

end Kind

/-- Messages are the same exactly if the faults are. Of two texts taken for
names the same is told exactly if they are the same text: a kind is given for
its own name alone, and a refusal has the message of one fault, which holds the
refused text. -/
theorem message_tells_fault (f g : Fault) (s t : String) :
    (f.message = g.message ↔ f = g) ∧
      (Kind.told s = Kind.told t ↔ s = t) ∧
      (∀ kind : Kind, Kind.told s = .ok kind ↔ s = kind.name) ∧
      (Kind.told s = .error f.message ↔
        f = .unknownKind s ∧ ∀ kind : Kind, s ≠ kind.name) := by
  refine ⟨⟨Fault.message_inj, fun h => by rw [h]⟩, ⟨Kind.told_inj, fun h => by rw [h]⟩,
    fun kind => Kind.told_eq_ok_iff, ?_⟩
  rw [Kind.told_eq_error_iff]
  constructor
  · rintro ⟨hmessage, hnames⟩
    exact ⟨Fault.message_inj hmessage, hnames⟩
  · rintro ⟨rfl, hnames⟩
    exact ⟨rfl, hnames⟩

end RegexTokens
