/-
DueTime.Command.Run — a run of the program, from its arguments to what it
leaves.

A run is a function of its arguments and of its surroundings: the zones
that there are, the environment, the standard input and the clock. It stops
early for help, for the version, or with a refusal. Of two refusals the one
that is met first wins: the arguments come first, then the zone, the token,
the reference and last the payload.
-/
import DueTime.Command.Answer

namespace DueTime.Command

/-- What the program finds around it. -/
structure Surroundings where
  /-- The zones that there are. -/
  zones : Zone.Database
  /-- The zone that the environment names. -/
  zoneVariable : Option String
  /-- The environment asks for diagnostics. -/
  tracing : Bool
  /-- Standard output is a terminal. -/
  terminal : Bool
  /-- The present moment. -/
  now : Instant
  /-- No machine's clock gets to the first or the last day of the calendar. -/
  now_hasMargin : now.HasMargin 1
  /-- All of standard input. It counts only where the arguments name no
  other source. -/
  input : ByteArray

/-! ## Finding the answer -/

/-- The token in the standard input: all of it, when it is UTF-8. -/
def inputText (input : ByteArray) : Except Refusal String :=
  match String.fromUTF8? input with
  | some text => .ok text
  | none => .error .unreadableInput

/-- What to resolve: a token, which must not be blank, or a payload. -/
inductive Subject
  | token (text : String)
  | payload (text : String)
  deriving Repr, DecidableEq

/-- A token that is not blank. -/
def tokenSubject (text : String) : Except Refusal Subject :=
  if Text.allBlank text then .error .noInput else .ok (.token text)

/-- What the settings ask to resolve. -/
def Settings.subject (s : Settings) (input : ByteArray) : Except Refusal Subject :=
  match s.source with
  | .token text => tokenSubject text
  | .payload text => .ok (.payload text)
  | .standardInput => inputText input >>= tokenSubject

/-- The clock to resolve against: the reference, or else the present. -/
def Settings.clock (s : Settings) (now : Instant) : Except Refusal ZonedTime :=
  match s.reference with
  | none => .ok ⟨s.zone, now⟩
  | some l =>
    match ZonedTime.ofReading? s.zone l with
    | some t => .ok t
    | none => .error (.referenceOutOfRange s.zone.name)

/-- The answer, seen from a clock. -/
def Subject.answer (now : ZonedTime) : Subject → Except Refusal Answer
  | token text => .ok (.token (now.explain text))
  | payload text =>
    match Extraction.ofText text with
    | .ok extraction => .ok (.payload now extraction)
    | .error error => .error (.badPayload text error)

/-- The settings of a run. -/
def settings (arguments : List String) (around : Surroundings) : Except Stop Settings := do
  let options ← Options.scan { color := around.terminal } arguments
  (options.settle around.zones around.zoneVariable).mapError .refused

/-- The run takes its token from standard input. -/
def needsInput (arguments : List String) (around : Surroundings) : Bool :=
  match settings arguments around with
  | .ok s => s.source == .standardInput
  | .error _ => false

/-- The answer of a run, with the settings that say how to write it. -/
def answer (arguments : List String) (around : Surroundings) :
    Except Stop (Settings × Answer) := do
  let s ← settings arguments around
  let found : Except Refusal Answer := do
    let subject ← s.subject around.input
    let clock ← s.clock around.now
    subject.answer clock
  return (s, ← found.mapError .refused)

/-! ## The run -/

/-- What a run leaves, when its answer takes so many nanoseconds. -/
def run (arguments : List String) (around : Surroundings) (elapsed : Nat) : Outcome :=
  match answer arguments around with
  | .ok (s, a) => a.outcome s around.tracing elapsed
  | .error stop => stop.outcome

end DueTime.Command
