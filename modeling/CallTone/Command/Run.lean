import CallTone.Command.Folder
import CallTone.Command.Options
import CallTone.Description
import CallTone.LogLine
import CallTone.Report
import CallTone.Settings.Loading
import CallTone.Text.Capital

/-!
Running a command line: read the options, load the configuration, wire the application and answer.
What a command prints goes to the output; log records of the asked level go to the error output in
colour, and those that warn are summed up at the end of the output, unless JSON was asked for.
-/
namespace CallTone.Command

inductive Exit where
  | code (n : Nat)
  /-- With a message instead of a code. -/
  | message (text : String)
  /-- With the reason why the configuration is none. -/
  | invalidConfiguration (cause : Settings.LoadFault)
  /-- With a failure that nothing caught. -/
  | failure (failure : Failure)
deriving DecidableEq

/-- What a run leaves behind. -/
structure Result where
  exit : Exit
  output : String
  errorOutput : String
deriving DecidableEq

def levelNames : List (String × LogLevel) :=
  [("CRITICAL", LogLevel.critical), ("FATAL", LogLevel.critical), ("ERROR", LogLevel.error),
    ("WARN", LogLevel.warning), ("WARNING", LogLevel.warning), ("INFO", LogLevel.info),
    ("DEBUG", LogLevel.debug), ("NOTSET", LogLevel.notSet)]

/-- The level from which on records are logged. A name without a level asks for warnings, but the
name of the basic record format is refused. -/
def levelOf : Given → Except Failure LogLevel
  | .blank => .error ⟨.attribute, "'list' object has no attribute 'upper'"⟩
  | .text name =>
    let name := Text.capitals name
    match levelNames.lookup name with
    | some level => .ok level
    | none =>
      if name = "BASIC_FORMAT" then
        .error ⟨.value, "Unknown level: '%(levelname)s:%(name)s:%(message)s'"⟩
      else .ok LogLevel.warning

/-- The failure of a look-up by a blank value. -/
def blankKey : Failure := ⟨.type, "unhashable type: 'list'"⟩

def Given.toText? : Option Given → Option String
  | some (.text word) => some word
  | _ => none

/-- Resolves a call whose user is blank: only a work contact is answered without looking the user
up. -/
def resolveBlankUser (app : App) (options : Options) : App.Answer String :=
  let caller := Given.toText? options.caller
  if caller = some CallerClass.work.word then
    app.resolveText (Given.toText? options.ringtone) caller none options.hapticMuted options.json
  else
    match app.volumeShaper with
    | .error failure => ⟨.error failure, []⟩
    | .ok _ => ⟨.error blankKey, []⟩

/-- The text that answers a resolve command. -/
def resolveAnswer (app : App) (options : Options) : App.Answer String :=
  if options.caller = some .blank then ⟨.error blankKey, []⟩
  else
    let resolve (user : Option Int) : App.Answer String :=
      app.resolveText (Given.toText? options.ringtone) (Given.toText? options.caller) user
        options.hapticMuted options.json
    match options.user with
    | none => resolve none
    | some (.id id) => resolve (some id)
    | some .blank => resolveBlankUser app options

/-- What a command printed, and how it ended. -/
structure Spoken where
  text : String
  exit : Exit
  notices : List Notice

def speak (answer : App.Answer String) : Spoken :=
  match answer.result with
  | .ok text => ⟨text ++ "\n", .code 0, answer.notices⟩
  | .error failure => ⟨"", .failure failure, answer.notices⟩

/-- A report spoken line by line; a bad one ends with code 1. -/
def speakReport (answer : App.Answer Report) : Spoken :=
  match answer.result with
  | .ok report =>
    ⟨String.join (report.lines.map fun line => line.text ++ "\n"),
      .code (if report.ok then 0 else 1), answer.notices⟩
  | .error failure => ⟨"", .failure failure, answer.notices⟩

def perform (app : App) (command : Section) (options : Options) : Spoken :=
  match command with
  | .resolve => speak (resolveAnswer app options)
  | .haptic => speak (app.hapticText options.json)
  | _ => speakReport app.report

def summary (warnings : List String) : String :=
  if warnings = [] then ""
  else
    "\n\x1b[33mWarnings/Errors summary:\x1b[0m\n" ++
      String.join (warnings.map fun line => " - " ++ line ++ "\n")

/-- What is left behind by a command that was performed, with records logged from a level on. -/
def finish (level : LogLevel) (json : Bool) (spoken : Spoken) : Result :=
  let records := (spoken.notices.map Notice.record).filter fun record => level ≤ record.level
  ⟨spoken.exit,
    spoken.text ++ (if json then "" else summary (LogRecord.warnings records)),
    String.join (records.map fun record => record.colouredLine ++ "\n")⟩

/-- An end without any output. -/
def silent (exit : Exit) : Result := ⟨exit, "", ""⟩

/-- The end of a run whose configuration cannot be opened. A missing file is told by its message. -/
def unopened (failure : Failure) : Result :=
  if failure.kind = .fileNotFound then silent (.message failure.message)
  else silent (.failure failure)

/-- The configuration that the options name; a blank name is none. -/
def namedConfig (options : Options) : Option Path :=
  (Given.toText? options.config).map Path.ofString

/-- Answers a command with the settings in the octets of a configuration. -/
def answerLoaded (homes : Path.Homes) (level : LogLevel) (command : Section) (options : Options)
    (octets : List Nat) (files : Files) : Result :=
  match Settings.load homes octets with
  | .error (.broken failure) => silent (.failure failure)
  | .error fault => silent (.invalidConfiguration fault)
  | .ok settings =>
    finish level options.json (perform (App.wire settings none files) command options)

def stopped : Stop → Result
  | .help part => ⟨.code 0, part.help, ""⟩
  | .misuse part misuse =>
    ⟨.code 2, "", part.usage ++ part.program ++ ": error: " ++ misuse.message ++ "\n"⟩

/-- Runs a command line in a working folder, with the media files that there are. -/
def run (homes : Path.Homes) (words : List String) (folder : Folder) (files : Files) : Result :=
  match readOptions words with
  | .error stop => stopped stop
  | .ok (command, options) =>
    match levelOf options.logLevel with
    | .error failure => silent (.failure failure)
    | .ok level =>
      match folder.findConfig (namedConfig options) with
      | .error failure => unopened failure
      | .ok path =>
        match folder.openFile path with
        | .error refusal => unopened (refusal.failure path)
        | .ok octets => answerLoaded homes level command options octets files

end CallTone.Command
