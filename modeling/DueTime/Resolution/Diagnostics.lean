/-
DueTime.Resolution.Diagnostics — the steps of a resolution, line by line.

There is a line for each rule that was tried, and one for the instant when
one was found. Rules that were not tried are passed over in silence.
-/
import DueTime.Resolution.Explanation
import DueTime.TimePattern.Record

namespace DueTime

/-- The word for what a rule did with the token, if it was tried. -/
def Token.Outcome.tried? : Token.Outcome → Option String
  | gated => none
  | missed => some "Missed"
  | matched _ => some "Matched"

/-- The lines for the rules that were tried. -/
def Token.Trace.diagnostics (trace : Token.Trace) : List String :=
  trace.attempts.filterMap fun attempt =>
    attempt.outcome.tried?.map fun word =>
      "[matcher] token=\"" ++ trace.normalized ++ "\" rule=\"" ++ attempt.rule ++
        "\" outcome=" ++ word

/-- The line for an instant that was found. -/
def Resolution.diagnostic (r : Resolution) (now : ZonedTime) : String :=
  "[resolve] pattern=" ++ r.pattern.record ++ " now=" ++ now.exact ++ " value=" ++ r.time.exact

/-- All lines for an explained token. -/
def Explanation.diagnostics (e : Explanation) : List String :=
  e.trace.diagnostics ++
    match e.result with
    | .ok r => [r.diagnostic e.now]
    | .error _ | .crash => []

end DueTime
