import CallTone.App

/-!
The health report: lines about the users, the package, the work profile, the sounds and the ringtone
cache of an application. A line says that all is well, warns, or names an error; the report is good
when no line names an error. A sound that cannot be loaded is an error line.
-/
namespace CallTone

/-- How a check ended. -/
inductive Report.Status where
  | passed
  | warning
  | error
deriving DecidableEq, Repr

def Report.Status.word : Report.Status → String
  | .passed => "OK"
  | .warning => "WARNING"
  | .error => "ERROR"

structure Report.Line where
  label : String
  status : Report.Status
  detail : Option String
deriving DecidableEq, Repr

/-- The text of a line; a detail that is empty is left out. -/
def Report.Line.text (line : Report.Line) : String :=
  let head := line.label ++ ": " ++ line.status.word
  match line.detail with
  | none => head
  | some detail => if detail = "" then head else head ++ " (" ++ detail ++ ")"

/-- A report: its lines in the order of the checks. -/
structure Report where
  lines : List Report.Line
deriving DecidableEq, Repr

namespace Report

def ok (report : Report) : Bool := report.lines.all fun line => line.status != .error

def add (report : Report) (label : String) (status : Status) (detail : Option String) : Report :=
  ⟨report.lines ++ [⟨label, status, detail⟩]⟩

end Report

namespace App

open Report (Line)

def usersLine (app : App) : Line :=
  ⟨"Users", .passed, some (toString app.settings.device.users.length ++ " configured, current " ++
    toString app.device.currentUser.identifier)⟩

/-- The line about the package for the current user. -/
def packageLine (app : App) : Line :=
  match app.device.scopedContext app.settings.resolver.packageName app.device.currentUser with
  | .ok _ => ⟨"Package", .passed, some app.settings.resolver.packageName⟩
  | .error failure => ⟨"Package", .error, some failure.message⟩

/-- The line about the work profile, given the profiles of the current user. -/
def workProfileLine (app : App) (profiles : List ProfileInfo) : Line :=
  match Resolver.managedOthers app.device.currentUser profiles with
  | [] => ⟨"Work profile", .passed, some "none"⟩
  | [profile] => ⟨"Work profile", .passed, some ("user " ++ toString profile.user.identifier)⟩
  | several =>
    ⟨"Work profile", .warning, some (toString several.length ++
      " managed profiles; work contacts use the default ringtone")⟩

/-- The line about a sound. Only failures of the ringtone parts themselves are reported; any other
is the report's own. -/
def soundLine (app : App) (label uri : String) : Answer Line :=
  let loading := app.load app.device.baseContext uri none (AudioAttributes.ringtone false)
  match loading.outcome with
  | .ok ringtone => ⟨.ok ⟨label, .passed, some ringtone.path.toString⟩, loading.notices⟩
  | .error failure =>
    if failure.kind.isRingtoneKind then
      ⟨.ok ⟨label, .error, some failure.message⟩, loading.notices⟩
    else ⟨.error failure, loading.notices⟩

def vibrationLine (app : App) : Answer Line :=
  match app.settings.resolver.vibrationSoundPath.strict with
  | .error stray => ⟨.error (Uri.unencodable stray), []⟩
  | .ok path =>
    if path = "" then
      ⟨.ok ⟨"Vibration sound", .warning, some "vibration_sound_path not configured"⟩, []⟩
    else app.soundLine "Vibration sound" (Uri.ofFile path)

/-- The line about the default ringtone of the current user. -/
def defaultLine (app : App) : Answer Line :=
  if app.device.isUnlocked app.device.currentUser.identifier then
    match app.device.actualDefault app.device.baseContext .ringtone with
    | none => ⟨.ok ⟨"Default ringtone", .warning, some "not set for current user"⟩, []⟩
    | some uri => app.soundLine "Default ringtone" uri
  else
    ⟨.ok ⟨"Default ringtone", .warning,
      some "current user is locked; systemwide default in use"⟩, []⟩

def lockedUsers (app : App) : List Int :=
  (app.settings.device.users.filter fun user => !user.unlocked).map UserSettings.id

/-- Whether the ringtone cache is a file. -/
def hasFile (app : App) (path : Path) : Bool :=
  match app.files.get? path.toString with
  | none | some .directory => false
  | some _ => true

def idsText (ids : List Int) : String :=
  "[" ++ String.intercalate ", " (ids.map toString) ++ "]"

def cacheWarning (locked : List Int) : Line :=
  ⟨"Ringtone cache", .warning,
    some ("missing; locked user(s) " ++ idsText locked ++ " will ring without sound")⟩

/-- The line about the ringtone cache, which counts only while some user is locked. -/
def cacheLines (app : App) : List Line :=
  match app.lockedUsers with
  | [] => []
  | locked =>
    match app.settings.device.ringtoneCache with
    | none => [cacheWarning locked]
    | some cache =>
      if app.hasFile cache then [⟨"Ringtone cache", .passed, some cache.toString⟩]
      else [cacheWarning locked]

/-- The health report. It fails only when the current user is not known to the device, the path of
the vibration sound cannot be encoded, or a sound fails in a way that is not the ringtone parts'
own. -/
def report (app : App) : Answer Report :=
  match app.device.enabledProfiles app.device.currentUser.identifier with
  | .error failure => ⟨.error failure, []⟩
  | .ok profiles =>
    let vibration := app.vibrationLine
    match vibration.result with
    | .error failure => ⟨.error failure, vibration.notices⟩
    | .ok vibrationLine =>
      let default := app.defaultLine
      ⟨default.result.map fun defaultLine =>
          ⟨[app.usersLine, app.packageLine, app.workProfileLine profiles, vibrationLine,
            defaultLine] ++ app.cacheLines⟩,
        vibration.notices ++ default.notices⟩

end App
end CallTone
