/-
DueTime.Resolution.Explanation — a resolution with all that led to it.
-/
import DueTime.Resolution.Basic

namespace DueTime

/-- A token, the clock it was resolved against, what the rules of the
grammar did with it, and what came of it. -/
structure Explanation where
  token : String
  now : ZonedTime
  trace : Token.Trace
  result : Result ResolveError Resolution

/-- Resolves a token and keeps the steps. -/
def ZonedTime.explain (now : ZonedTime) (token : String) : Explanation :=
  let trace := Token.trace token
  { token, now, trace, result := now.resolveFound token trace.pattern? }

end DueTime
