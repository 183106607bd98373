import CallTone.Binary64.Decimal
import CallTone.Call
import CallTone.Path

/-!
Notices: what the resolver and the sound engine write to the log. Each notice is a cause; its level,
the part that writes it, its words and the failure that it carries are functions of the cause.
-/
namespace CallTone

abbrev LogLevel := Int

namespace LogLevel

/-- For everything. -/
def notSet : LogLevel := 0
/-- For finding faults in the program. -/
def debug : LogLevel := 10
/-- For the record. -/
def info : LogLevel := 20
/-- For what may be wrong. -/
def warning : LogLevel := 30
/-- For what failed. -/
def error : LogLevel := 40
/-- For what ends the program. -/
def critical : LogLevel := 50

/-- The name of a level; numbers between the levels have none of their own. -/
def name (level : LogLevel) : String :=
  match level with
  | 0 => "NOTSET"
  | 10 => "DEBUG"
  | 20 => "INFO"
  | 30 => "WARNING"
  | 40 => "ERROR"
  | 50 => "CRITICAL"
  | other => "Level " ++ toString other

end LogLevel

/-- The parts that write notices. -/
inductive Notice.Source where
  | resolver
  | engine
deriving DecidableEq, Repr

def Notice.Source.name : Notice.Source → String
  | .resolver => "ringtone_resolver.resolver"
  | .engine => "ringtone_resolver.engine"

inductive Notice where
  /-- A sound was loaded; its length is in seconds, where it is known. -/
  | soundLoaded (uri : String) (path : Path) (seconds : Option Binary64)
  /-- Several managed profiles leave open which one a work contact belongs to. -/
  | severalProfiles (count : Nat) (user : UserHandle)
  /-- The package is not there for a user. -/
  | packageMissing (failure : Failure)
  /-- A sound could not be loaded. -/
  | soundFailed (uri : String) (failure : Failure)
  /-- The user has chosen no default ringtone. -/
  | defaultUnset (user : UserHandle)
  /-- There is no systemwide default ringtone. -/
  | systemDefaultUnset
  /-- The default ringtone could not be read. -/
  | defaultUnreadable (user : UserHandle) (failure : Failure)
  /-- The user's own setting could not be read. -/
  | settingUnreadable (user : UserHandle) (failure : Failure)
  /-- The user's profiles could not be listed. -/
  | profilesUnreadable (user : UserHandle) (failure : Failure)
deriving DecidableEq

namespace Notice

def level : Notice → LogLevel
  | .soundLoaded .. | .severalProfiles .. => LogLevel.debug
  | .defaultUnset _ | .systemDefaultUnset => LogLevel.info
  | .packageMissing _ => LogLevel.warning
  | .soundFailed .. | .defaultUnreadable .. | .settingUnreadable .. | .profilesUnreadable .. =>
    LogLevel.error

def source : Notice → Source
  | .soundLoaded .. => .engine
  | _ => .resolver

/-- The seconds of a sound as they are shown: unknown and zero lengths alike as zero. -/
def shownSeconds : Option Binary64 → Binary64
  | none => Binary64.zero
  | some seconds => if seconds.equals Binary64.zero then Binary64.zero else seconds

def message : Notice → String
  | .soundLoaded uri path seconds =>
    "Loaded " ++ uri ++ " from " ++ path.toString ++ " (" ++
      (shownSeconds seconds).textTwoPlaces ++ "s)"
  | .severalProfiles count user =>
    toString count ++ " managed profiles for " ++ user.text ++ "; using the default context"
  | .packageMissing failure => "Package name not found: " ++ failure.message
  | .soundFailed uri _ => "get_ringtone: exception while getting ringtone " ++ uri
  | .defaultUnset user => "get_ringtone: default ringtone for " ++ user.text ++ " is unset"
  | .systemDefaultUnset => "get_ringtone: systemwide default ringtone is unset"
  | .defaultUnreadable user _ => "get_ringtone: cannot read default ringtone for " ++ user.text
  | .settingUnreadable user _ => "Cannot read ringtone setting of " ++ user.text
  | .profilesUnreadable user _ => "Cannot list profiles of " ++ user.text

def failure? : Notice → Option Failure
  | .soundFailed _ failure | .defaultUnreadable _ failure | .settingUnreadable _ failure
  | .profilesUnreadable _ failure => some failure
  | _ => none

end Notice
end CallTone
