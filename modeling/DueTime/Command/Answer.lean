/-
DueTime.Command.Answer — what a run finds out, and how it is written down.

An answer is an explained token or a drafted reminder. It is written as a
report or as one line of JSON, and the diagnostics go beside it. How long
the answer took is known only when it is there, so that is asked for last.
When the resolution breaks off, the run does too, and only the diagnostics
that went before are written.
-/
import DueTime.Command.MachineLine
import DueTime.Command.Report
import DueTime.Command.Settings
import DueTime.Resolution.Diagnostics

namespace DueTime.Command

/-- How a run ends. -/
inductive ExitCode
  /-- The token or the draft was resolved, or help was given. -/
  | resolved
  /-- There was nothing to resolve it to. -/
  | unresolved
  /-- The run was refused. -/
  | refused
  /-- The run broke off. -/
  | crashed
  deriving Repr, DecidableEq

/-- The number that the shell gets. -/
def ExitCode.number : ExitCode → Nat
  | resolved => 0
  | unresolved => 1
  | refused => 2
  | crashed => 101

/-- The exit code for a result. -/
def ExitCode.ofResult {ε α : Type} : Result ε α → ExitCode
  | .ok _ => resolved
  | .error _ => unresolved
  | .crash => crashed

/-- What a run leaves. -/
structure Outcome where
  code : ExitCode
  output : String
  errors : String
  deriving Repr, DecidableEq

/-! ## Answers -/

/-- What a run found out. -/
inductive Answer
  | token (explanation : Explanation)
  | payload (now : ZonedTime) (extraction : Extraction)

namespace Answer

/-- How the run ends. -/
def exitCode : Answer → ExitCode
  | token e => .ofResult e.result
  | payload now extraction => .ofResult (now.draft extraction)

/-- The diagnostics of the resolution. For a payload there are some only
when its token is resolved at all. -/
def diagnostics : Answer → List String
  | token e => e.diagnostics
  | payload now extraction =>
    match extraction.request with
    | .ok (_, text) => (now.explain text).diagnostics
    | .error _ => []

/-- The answer on one line, if there is one. -/
def machineLine? : Answer → Option String
  | token e => e.result.settled?.map fun r => (tokenObject e.trace.normalized r).render
  | payload now extraction => (now.draft extraction).settled?.map fun r => (draftObject r).render

/-- The answer as a report, if there is one. -/
def report? (p : Palette) (elapsed : Nat) : Answer → Option (List String)
  | token e => e.result.settled?.map (Report.explanation p elapsed e)
  | payload now extraction => (now.draft extraction).settled?.map (Report.draft p now)

/-- The answer as the settings ask for it. -/
def written? (a : Answer) (s : Settings) (elapsed : Nat) : Option String :=
  if s.json then a.machineLine?.map (· ++ "\n") else (a.report? ⟨s.color⟩ elapsed).map unlines

end Answer

/-! ## Outcomes -/

/-- What a run that stops early leaves. -/
def Stop.outcome : Stop → Outcome
  | help => ⟨.resolved, helpText ++ "\n", ""⟩
  | version => ⟨.resolved, versionText ++ "\n", ""⟩
  | refused reason => ⟨.refused, "", reason.message⟩

/-- What a run with an answer leaves. -/
def Answer.outcome (a : Answer) (s : Settings) (tracing : Bool) (elapsed : Nat) : Outcome :=
  { code := a.exitCode
    output := (a.written? s elapsed).getD ""
    errors := if tracing then unlines a.diagnostics else "" }

end DueTime.Command
