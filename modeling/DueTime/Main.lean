/-
DueTime.Main — the program.

All that the program decides is in `Command.answer` and in
`Answer.outcome`. Here the surroundings are looked at, the time is taken,
and the outcome is written out.
-/
import DueTime.Command.Run
import Std.Time.DateTime.Timestamp

namespace DueTime

open Command

/-- The present moment. -/
def presentInstant : IO { i : Instant // i.HasMargin 1 } := do
  let present := (← Std.Time.Timestamp.now).val
  let point? : Option TimePoint :=
    if h : present.nano.val.toNat < 2 * nanosPerSecond then
      some ⟨present.second.val, present.nano.val.toNat, h⟩
    else none
  match point? >>= Instant.ofTimePoint? with
  | some i =>
    if h : i.HasMargin 1 then return ⟨i, h⟩
    else throw (IO.userError "the clock shows a time at an end of the calendar")
  | none => throw (IO.userError "the clock shows a time beyond the calendar")

/-- All bytes that are left in a stream. -/
def readBytes (stream : IO.FS.Stream) : IO ByteArray := do
  let mut bytes := ByteArray.empty
  repeat
    let chunk ← stream.read 4096
    if chunk.isEmpty then break
    bytes := bytes ++ chunk
  return bytes

/-- Writes an outcome and gives its exit code. -/
def writeOutcome (outcome : Outcome) : IO UInt32 := do
  (← IO.getStderr).putStr outcome.errors
  (← IO.getStdout).putStr outcome.output
  return outcome.code.number.toUInt32

end DueTime

open DueTime DueTime.Command

/-- Resolves a token or drafts a reminder. -/
def main (arguments : List String) : IO UInt32 := do
  let ⟨now, now_hasMargin⟩ ← presentInstant
  let around : Surroundings :=
    { zones := .known
      zoneVariable := ← IO.getEnv "REMINDTIME_TZ"
      tracing := (← IO.getEnv "REMINDTIME_DEBUG_RULES").isSome
      terminal := ← (← IO.getStdout).isTty
      now
      now_hasMargin
      input := .empty }
  let input ←
    if needsInput arguments around then readBytes (← IO.getStdin) else pure .empty
  let started ← IO.monoNanosNow
  match answer arguments { around with input } with
  | .error stop => writeOutcome stop.outcome
  | .ok (s, a) => do
    let finished ← IO.monoNanosNow
    writeOutcome (a.outcome s around.tracing (finished - started))
