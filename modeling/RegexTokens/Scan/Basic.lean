/-
RegexTokens.Scan.Basic — what a scan may be told, and what it yields.

A scan holds the tokens of a stretch of the pattern, the events on the way and
the number of positions the stretch takes up. Stretches that follow each other
join: scans are a monoid under `++`, and every scan in this library is put
together from single tokens by joining.
-/
import RegexTokens.Event
import RegexTokens.Token

namespace RegexTokens

/-! ## §1 Options -/

/-- How patterns are scanned. By default groups are recognised one level
deep, and an opening parenthesis inside a group is a plain character. -/
structure Options where
  /-- Scan an opening parenthesis inside a group as a group of its own. -/
  nestedGroups : Bool := false
  deriving DecidableEq, Repr, Inhabited

/-- The options with `nestedGroups` set as given. -/
def Options.withNestedGroups (o : Options) (enabled : Bool) : Options :=
  { o with nestedGroups := enabled }

/-! ## §2 Scans -/

/-- The outcome of scanning a stretch of a pattern. -/
@[ext] structure Scan where
  tokens : List Token := []
  events : List Event := []
  /-- The positions taken up, counting those past the end of the pattern. -/
  width : Nat := 0
  deriving DecidableEq, Repr, Inhabited

namespace Scan

/-- The scan of nothing. -/
def empty : Scan := {}

/-- The scan of a stretch and of the one that follows it. -/
def append (a b : Scan) : Scan where
  tokens := a.tokens ++ b.tokens
  events := a.events ++ b.events
  width := a.width + b.width

instance : Append Scan := ⟨append⟩

@[simp] theorem tokens_empty : empty.tokens = [] := rfl

@[simp] theorem events_empty : empty.events = [] := rfl

@[simp] theorem width_empty : empty.width = 0 := rfl

@[simp] theorem tokens_append (a b : Scan) : (a ++ b).tokens = a.tokens ++ b.tokens := rfl

@[simp] theorem events_append (a b : Scan) : (a ++ b).events = a.events ++ b.events := rfl

@[simp] theorem width_append (a b : Scan) : (a ++ b).width = a.width + b.width := rfl

@[simp] theorem empty_append (a : Scan) : empty ++ a = a := by
  ext1 <;> simp

@[simp] theorem append_empty (a : Scan) : a ++ empty = a := by
  ext1 <;> simp

theorem append_assoc (a b c : Scan) : a ++ b ++ c = a ++ (b ++ c) := by
  ext1 <;> simp [Nat.add_assoc]

/-- The scan of one position that is one token. -/
def single (kind : Kind) (text : String) (position : Nat) : Scan where
  tokens := [⟨kind, text, position⟩]
  width := 1

@[simp] theorem tokens_single (kind : Kind) (text : String) (position : Nat) :
    (single kind text position).tokens = [⟨kind, text, position⟩] := rfl

@[simp] theorem events_single (kind : Kind) (text : String) (position : Nat) :
    (single kind text position).events = [] := rfl

@[simp] theorem width_single (kind : Kind) (text : String) (position : Nat) :
    (single kind text position).width = 1 := rfl

end Scan

end RegexTokens
