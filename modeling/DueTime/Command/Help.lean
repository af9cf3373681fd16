/-
DueTime.Command.Help — what the program says about itself.
-/
namespace DueTime.Command

/-- The name and the version of the program. -/
def versionText : String :=
  "remindtime 0.1.0"

/-- How the program is used; the last line is ended too. -/
def helpText : String :=
  String.join <| List.map (· ++ "\n")
    [versionText,
     "",
     "Resolve reminder time patterns against a reference clock.",
     "",
     "Usage:",
     "  remindtime [OPTIONS] [--] <pattern...>",
     "  remindtime [OPTIONS] --oracle <json>",
     "",
     "Patterns:",
     "  +HH:MM  -HH:MM  HH:MM  HH",
     "  today|tomorrow|day-after-tomorrow|overmorrow HH[:MM]   day after tomorrow HH[:MM]",
     "  in-N-days HH[:MM]   in-one-week HH[:MM]",
     "  <weekday> HH[:MM]   in-one-week <weekday> HH[:MM]   in-N-weeks <weekday> HH[:MM]",
     "",
     "Options:",
     "  --oracle <json>            Draft a reminder from an extractor payload, e.g.",
     "                             '\x7b\"activity\":\"call mom\",\"timePattern\":\"+02:00\"\x7d'.",
     "  --reference <timestamp>    Local reference time in YYYY-MM-DDTHH:MM:SS.",
     "                             Default: the current time.",
     "  --tz <zone>                IANA timezone of the reference clock.",
     "                             Default: $REMINDTIME_TZ, then UTC.",
     "  --json                     Print a single JSON object instead of a report.",
     "  --color                    Force ANSI color output.",
     "  --no-color                 Disable ANSI color output.",
     "  -h, --help                 Show this help message.",
     "  -V, --version              Print version information.",
     "",
     "Environment:",
     "  REMINDTIME_TZ               Default timezone when --tz is absent.",
     "  REMINDTIME_DEBUG_RULES=1   Trace rule matching and resolution to stderr.",
     "",
     "Exit codes:",
     "  0  Resolved.",
     "  1  The pattern could not be resolved (unrecognized, invalid, or in the past).",
     "  2  Invalid arguments or missing input."]

end DueTime.Command
