/-
RegexTokens.Session — a scan that goes on step by step.

In a session the caller says which construct comes next instead of letting
the pattern decide, wherever the cursor stands, also past the end. What was
scanned before stays as it was, and `finish` scans what is left as a pattern
is scanned: a session without steps is a scan (`finish_start`).
-/
import RegexTokens.Scan.Pattern

namespace RegexTokens

/-- The scan of a construct from a cursor. -/
def Construct.scan (o : Options) (c : Cursor) : Construct → Scan
  | group => .group o c
  | charClass => .charClass c
  | quantifier => .quantifier c
  | escape => .escape c

theorem Construct.width_scan_pos (o : Options) (c : Cursor) (k : Construct) :
    0 < (k.scan o c).width := by
  cases k
  · exact Scan.width_group_pos o c
  · exact Scan.width_charClass_pos c
  · exact Scan.width_quantifier_pos c
  · exact Scan.width_escape_pos c

/-- A scan under way: the pattern, the options, and what is scanned so far. -/
structure Session where
  pattern : List Char
  options : Options := {}
  done : Scan := .empty
  deriving DecidableEq, Repr

namespace Session

/-- A session that has not scanned anything yet. -/
def start (pattern : String) (o : Options := {}) : Session where
  pattern := pattern.toList
  options := o

/-- Where the session stands in its pattern, or past it. -/
def cursor (s : Session) : Cursor := .ofOffset s.pattern s.done.width

/-- What the next step yields if it scans the given construct. -/
def next (s : Session) (k : Construct) : Scan := k.scan s.options s.cursor

/-- The session after the scan of a construct. -/
def step (s : Session) (k : Construct) : Session := { s with done := s.done ++ s.next k }

/-- All that the session has scanned once the rest of the pattern is scanned
too. -/
def finish (s : Session) : Scan := s.done ++ .items s.options s.cursor

theorem finish_start (pattern : String) (o : Options) :
    (start pattern o).finish = RegexTokens.scan pattern o := by
  simp [finish, start, cursor, RegexTokens.scan]

theorem cursor_step (s : Session) (k : Construct) :
    (s.step k).cursor = s.cursor.advance (s.next k).width := by
  simp [step, cursor, Cursor.advance_ofOffset]

end Session

end RegexTokens
