/-
DueTime.Command.Settings — what a run is to do.

The options leave things open that a run must know: the zone is looked up
by its name, which the environment may give, among the zones that there
are; and there must be one source for what is to be resolved, the standard
input if no other is named.
-/
import DueTime.Command.Options
import DueTime.Zone.Database

namespace DueTime.Command

/-- Where that which is to be resolved comes from. -/
inductive Source
  | token (text : String)
  | payload (text : String)
  | standardInput
  deriving Repr, DecidableEq

/-- What a run is to do. -/
structure Settings where
  source : Source
  reference : Option Reading
  zone : Zone
  color : Bool
  json : Bool

namespace Options

/-- The name of the zone: the option's, else the environment's, else UTC. -/
def zoneName (o : Options) (zoneVariable : Option String) : String :=
  (o.zone <|> zoneVariable).getD "UTC"

/-- The source that the options name; they must not name two. -/
def source? (o : Options) : Option Source :=
  match o.payload, o.token with
  | some _, some _ => none
  | some text, none => some (.payload text)
  | none, some text => some (.token text)
  | none, none => some .standardInput

/-- What the run is to do. -/
def settle (o : Options) (zones : Zone.Database) (zoneVariable : Option String) :
    Except Refusal Settings :=
  match zones.find? (o.zoneName zoneVariable) with
  | none => .error (.unknownZone (o.zoneName zoneVariable))
  | some zone =>
    match o.source? with
    | none => .error .tokenAndPayload
    | some source => .ok ⟨source, o.reference, zone, o.color, o.json⟩

end Options

end DueTime.Command
