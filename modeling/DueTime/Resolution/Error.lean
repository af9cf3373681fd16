/-
DueTime.Resolution.Error — why a token has no time.
-/
import DueTime.Text.Digits

namespace DueTime

/-- The reason that a token or a pattern could not be given an instant. -/
inductive ResolveError
  /-- The grammar has no rule for the token, given without its outer blanks. -/
  | unrecognized (token : String)
  /-- The hours and minutes are no time of day, or the instant asked for
  is one that the calendar or the zone does not have. -/
  | invalidTime (hours minutes : Nat)
  /-- The pattern points backwards. -/
  | pastTime
  deriving Repr, DecidableEq, Inhabited

/-- The reason in words. -/
def ResolveError.message : ResolveError → String
  | unrecognized token => "could not determine a time from '" ++ token ++ "'"
  | invalidTime hours minutes =>
    "invalid time format: " ++ String.ofList (Text.paddedDigits 2 hours) ++ ":" ++
      String.ofList (Text.paddedDigits 2 minutes)
  | pastTime => "cannot set a reminder in the past"

end DueTime
