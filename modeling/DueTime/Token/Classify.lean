/-
DueTime.Token.Classify — the meaning of a token, and how it was found.

`trace` offers the normal form of a token to every rule of a table and
keeps what each one did with it: a rule is gated when the token lacks a
feature that the rule needs, and otherwise it matched or missed.
`classify` is the first meaning found.
-/
import DueTime.Token.Grammar
import DueTime.Token.Normal

namespace DueTime.Token

/-- What a rule did with a token. -/
inductive Outcome
  /-- The rule was not tried: a feature that it needs is missing. -/
  | gated
  /-- The rule was tried and refused the token. -/
  | missed
  /-- The rule read the token. -/
  | matched (pattern : TimePattern)
  deriving Repr, DecidableEq, Inhabited

/-- What a rule does with a normalized token that has the given features. -/
def Rule.offer (rule : Rule) (features : List Feature) (token : List Char) : Outcome :=
  if rule.needs.all (features.contains ·) then
    match rule.read token with
    | some pattern => .matched pattern
    | none => .missed
  else .gated

/-- The meaning found, if the rule matched. -/
def Outcome.pattern? : Outcome → Option TimePattern
  | matched pattern => some pattern
  | _ => none

/-- A rule, by its name, and what it did. -/
structure Attempt where
  rule : String
  outcome : Outcome
  deriving Repr, DecidableEq, Inhabited

/-- The rule and the meaning it found, if it matched. -/
def Attempt.match? (attempt : Attempt) : Option (String × TimePattern) :=
  attempt.outcome.pattern?.map (attempt.rule, ·)

/-- All that happened to a token on its way through a table of rules. -/
structure Trace where
  normalized : String
  features : List Feature
  attempts : List Attempt
  deriving Repr, DecidableEq, Inhabited

namespace Trace

/-- The rules that matched, with the meanings they found, in table order. -/
def found (trace : Trace) : List (String × TimePattern) :=
  trace.attempts.filterMap Attempt.match?

/-- The meaning of the token. -/
def pattern? (trace : Trace) : Option TimePattern :=
  trace.found.head?.map (·.2)

/-- The name of the rule that gave the token its meaning. -/
def rule? (trace : Trace) : Option String :=
  trace.found.head?.map (·.1)

end Trace

/-- Offers a token to every rule of a table. -/
def traceWith (rules : List Rule) (token : String) : Trace :=
  let normalized := normalChars token.toList
  let features := Feature.detect normalized
  { normalized := String.ofList normalized
    features
    attempts := rules.map fun rule => ⟨rule.name, rule.offer features normalized⟩ }

/-- Offers a token to every rule of the grammar. -/
def trace (token : String) : Trace :=
  traceWith Rule.table token

/-- The meaning of a token, if the grammar has one for it. -/
def classify (token : String) : Option TimePattern :=
  (trace token).pattern?

end DueTime.Token
