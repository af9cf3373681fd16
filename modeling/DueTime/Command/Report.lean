/-
DueTime.Command.Report — what people get to read.

A report is a list of lines. One shows how a token was resolved: the
clock, what each rule did, the instant or the reason why there is none,
and how long it took. The other shows a draft of a reminder.
-/
import DueTime.Command.Elapsed
import DueTime.Command.Palette
import DueTime.Reminder.Draft
import DueTime.Resolution.Explanation

namespace DueTime.Command

open Token (Feature)

/-- The lines as text; each is ended. -/
def unlines (lines : List String) : String :=
  String.join (lines.map (· ++ "\n"))

namespace Report

/-- The features of a token, as a set. -/
def featureText (features : List Feature) : String :=
  "BucketMask(" ++
    (if features.isEmpty then "0x0" else " | ".intercalate (features.map Feature.label)) ++ ")"

/-- The text with spaces behind it, up to a width. -/
def padded (width : Nat) (text : String) : String :=
  text ++ String.ofList (List.replicate (width - text.length) ' ')

/-- The mark for what a rule did. -/
def mark (p : Palette) : Token.Outcome → String
  | .matched _ => p.paint .green "✓ matched"
  | .missed => p.paint .dim "✗ missed"
  | .gated => p.paint .dim "· gated"

/-- The line for one rule. -/
def attemptLine (p : Palette) (attempt : Token.Attempt) : String :=
  "  " ++ padded 11 (mark p attempt.outcome) ++ " " ++ p.paint .blue attempt.rule

/-- The line for the clock. -/
def referenceLine (p : Palette) (now : ZonedTime) : String :=
  "  " ++ p.paint .dim "reference:" ++ " " ++ p.paint .yellow now.exact ++ " " ++
    p.paint .dim ("(" ++ now.zone.name ++ ")")

/-- The heading of a section. -/
def heading (p : Palette) (title : String) : String :=
  p.paint .gray ("━━━ " ++ title ++ " ━━━")

/-- The lines for the result of a resolution. -/
def resultLines (p : Palette) : Except ResolveError Resolution → List String
  | .ok r =>
    ["  " ++ p.paintBold .green r.due ++ " " ++ p.paint .dim "│" ++ " " ++ p.paint .cyan r.rule,
     "  " ++ p.paint .dim "utc:" ++ " " ++ r.time.utc]
  | .error e =>
    ("  " ++ p.paint .red e.message) ::
      match e with
      | .unrecognized _ =>
        ["",
         p.paint .yellow "Possible reasons:",
         "  • The token is not one of the supported forms (see --help)",
         "  • Words are joined with '-' in multi-word forms (in-3-days, in-one-week)",
         "",
         p.paint .dim "  Tip: Set REMINDTIME_DEBUG_RULES=1 to see rule matching details"]
      | _ => []

/-- The lines for an explained token and for its result. -/
def explanation (p : Palette) (elapsed : Nat) (e : Explanation)
    (result : Except ResolveError Resolution) : List String :=
  ["",
   p.paintBold .cyan ("⏰ Pattern: \"" ++ Text.trimmed e.token ++ "\""),
   referenceLine p e.now,
   "",
   heading p "Rules",
   "  " ++ p.paint .dim "normalized:" ++ " " ++
     p.paint .yellow ("\"" ++ e.trace.normalized ++ "\""),
   "  " ++ p.paint .dim "features:" ++ " " ++ featureText e.trace.features] ++
  e.trace.attempts.map (attemptLine p) ++
  ["", heading p "Result"] ++
  resultLines p result ++
  ["",
   heading p "Timing",
   "  Total: " ++ p.paint .green (elapsedText elapsed),
   ""]

/-- The lines for a draft, or for the reason why there is none. -/
def draft (p : Palette) (now : ZonedTime) (result : Except FailureCode Draft) : List String :=
  ["",
   p.paintBold .cyan "⏰ Reminder draft",
   referenceLine p now,
   "",
   heading p "Result"] ++
  (match result with
    | .ok d =>
      ["  " ++ p.paint .dim "activity:" ++ " " ++ p.paint .bold d.activity,
       "  " ++ p.paint .dim "due:     " ++ " " ++ p.paint .green d.due,
       "  " ++ p.paint .dim "rule:    " ++ " " ++ p.paint .blue d.rule]
    | .error code => ["  " ++ p.paint .red code.text ++ " " ++ p.paint .dim code.message]) ++
  [""]

end Report

end DueTime.Command
