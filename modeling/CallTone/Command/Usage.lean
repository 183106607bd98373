/-!
Usage: what the command line tells about itself, set for lines of 80 columns.
-/
namespace CallTone.Command

/-- The parts of the command line that have their own options: the whole, and each command. -/
inductive Section where
  | whole
  | resolve
  | haptic
  | doctor
deriving DecidableEq, Repr

namespace Section

/-- The commands, in their listed order. -/
def commands : List Section := [.resolve, .haptic, .doctor]

def word : Section → String
  | .whole => ""
  | .resolve => "resolve"
  | .haptic => "haptic"
  | .doctor => "doctor"

def ofWord? (text : String) : Option Section := commands.find? fun command => command.word = text

/-- The name under which a section reports. -/
def program : Section → String
  | .whole => "ringtone-resolver"
  | command => "ringtone-resolver " ++ command.word

def usage : Section → String
  | .whole =>
    "usage: ringtone-resolver [-h] [--config CONFIG] [--log-level LOG_LEVEL]\n" ++
    "                         \x7bresolve,haptic,doctor\x7d ...\n"
  | .resolve =>
    "usage: ringtone-resolver resolve [-h] [--ringtone RINGTONE]\n" ++
    "                                 [--caller \x7bordinary,unknown,work\x7d]\n" ++
    "                                 [--user USER] [--haptic-muted] [--json]\n"
  | .haptic => "usage: ringtone-resolver haptic [-h] [--json]\n"
  | .doctor => "usage: ringtone-resolver doctor [-h]\n"

/-- What a section explains beyond its usage. -/
def explanation : Section → String
  | .whole =>
    "Incoming-call ringtone resolution\n\n" ++
    "positional arguments:\n" ++
    "  \x7bresolve,haptic,doctor\x7d\n" ++
    "    resolve             Resolve the ringtone for a simulated incoming call\n" ++
    "    haptic              Resolve the silent ringtone used for vibrate-only\n" ++
    "                        rings\n" ++
    "    doctor              Check the configured device and sounds\n\n" ++
    "options:\n" ++
    "  -h, --help            show this help message and exit\n" ++
    "  --config CONFIG       Path to config.yaml\n" ++
    "  --log-level LOG_LEVEL\n" ++
    "                        Python logging level\n"
  | .resolve =>
    "options:\n" ++
    "  -h, --help            show this help message and exit\n" ++
    "  --ringtone RINGTONE   Ringtone URI specified by the caller's contact\n" ++
    "  --caller \x7bordinary,unknown,work\x7d\n" ++
    "                        Caller classification (omit when no caller info is\n" ++
    "                        known)\n" ++
    "  --user USER           User id the call is associated with\n" ++
    "  --haptic-muted        Mute the haptic channels of the ringtone\n" ++
    "  --json                Emit machine-readable JSON to stdout\n"
  | .haptic =>
    "options:\n" ++
    "  -h, --help  show this help message and exit\n" ++
    "  --json      Emit machine-readable JSON to stdout\n"
  | .doctor =>
    "options:\n" ++
    "  -h, --help  show this help message and exit\n"

def help (part : Section) : String := part.usage ++ "\n" ++ part.explanation

end Section
end CallTone.Command
