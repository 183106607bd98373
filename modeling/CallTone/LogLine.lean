import CallTone.Notice

/-!
Log lines: how a log record is written. The line holds the first letter of the level's name, the
source and the message; a failure follows on a line of its own. On a terminal the five named levels
have colours.
-/
namespace CallTone

structure LogRecord where
  level : LogLevel
  source : String
  message : String
  failure : Option Failure
deriving DecidableEq

def Notice.record (notice : Notice) : LogRecord :=
  ⟨notice.level, notice.source.name, notice.message, notice.failure?⟩

namespace LogRecord

/-- The line of a record without its failure. -/
def head (record : LogRecord) : String :=
  String.ofList (record.level.name.toList.take 1) ++ " | " ++ record.source ++ " | " ++ record.message

def line (record : LogRecord) : String :=
  match record.failure with
  | none => record.head
  | some failure =>
    record.head ++ (if record.head.toList.getLast? = some '\n' then "" else "\n") ++ failure.report

/-- The sequence that switches a terminal to the colour of a level. -/
def colour? (level : LogLevel) : Option String :=
  match level with
  | 10 => some "\x1b[36m"
  | 20 => some "\x1b[37m"
  | 30 => some "\x1b[33m"
  | 40 => some "\x1b[31m"
  | 50 => some "\x1b[35m"
  | _ => none

/-- The sequence that ends a colour. -/
def colourEnd : String := "\x1b[0m"

/-- The line of a record as it is shown on a terminal. -/
def colouredLine (record : LogRecord) : String :=
  match colour? record.level with
  | none => record.line
  | some colour => colour ++ record.line ++ colourEnd

def warnings (records : List LogRecord) : List String :=
  (records.filter fun record => LogLevel.warning ≤ record.level).map line

end LogRecord
end CallTone
