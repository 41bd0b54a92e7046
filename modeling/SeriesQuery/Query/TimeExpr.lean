import SeriesQuery.Calendar.Timestamp
import SeriesQuery.Query.Duration

/-!
# Time expressions

The three forms of a range bound: `now()`, a duration relative to now, and a canonical timestamp.
-/

namespace SeriesQuery

/-- A bound that is not yet anchored at a now. -/
inductive TimeExpr where
  | now
  | relative (offset : Duration)
  | absolute (instant : Instant)
  deriving DecidableEq, Repr

namespace TimeExpr

/-- The text of the current instant. -/
def nowText : String := "now()"

/-- The expression written by the text. -/
def parse (text : String) : Except QueryError TimeExpr :=
  if text = nowText then .ok now
  else
    match Duration.read? text.toList with
    | some d => .ok (relative d)
    | none =>
      match Timestamp.parse? text with
      | some t => .ok (absolute t)
      | none => .error (.malformedTime text)

/-- The instant that the expression denotes at `now`, in whichever direction. -/
def anchor (e : TimeExpr) (current : Instant) : Except QueryError Instant :=
  match e with
  | now => .ok current
  | relative d =>
    match current.add? d.nanos with
    | some t => .ok t
    | none => .error (.malformedTime (d.iso ++ " out of range"))
  | absolute t => .ok t

/-- The instant of the text at `current`. It lies before `current`, except that `now()` is `current`
itself. -/
def resolve (text : String) (current : Instant) : Except QueryError Instant := do
  let e ← parse text
  let t ← e.anchor current
  if e = now ∨ t < current then return t else throw (.futureTime text)

end TimeExpr

end SeriesQuery
