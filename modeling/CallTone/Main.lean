import CallTone.Command.Run

/-!
The program: it runs a command line against the disk. Here the files are opened and the answer is
written; what is answered is decided elsewhere. A file counts as a sound when it starts like one of
the usual formats; how long it lasts is not measured.
-/
namespace CallTone.Main

open Command

/-- A failure to open a file. -/
def refusalOf : IO.Error → Folder.Refusal
  | .noFileOrDirectory .. => .missing
  | .inappropriateType .. => .isFolder
  | .resourceExhausted .. => .nameTooLong
  | _ => .missing

def readOctets (path : String) : IO (Except Folder.Refusal (List Nat)) := do
  try
    let bytes ← IO.FS.readBinFile path
    return .ok (bytes.toList.map UInt8.toNat)
  catch failure => return .error (refusalOf failure)

/-- The first configuration that is there, with its octets or the reason why it cannot be opened. -/
def searchConfig : List String → IO (Except Failure (List Nat))
  | [] => return .error Folder.notFound
  | name :: rest => do
    match ← readOctets name with
    | .ok octets => return .ok octets
    | .error .missing => searchConfig rest
    | .error refusal => return .error (refusal.failure (Path.ofString name))

def readConfig (named : Option Path) : IO (Except Failure (List Nat)) := do
  match named with
  | none => searchConfig Folder.configNames
  | some path => return (← readOctets path.toString).mapError fun refusal => refusal.failure path

/-- How the files of the usual sound formats start. -/
def soundStarts : List String := ["RIFF", "OggS", "fLaC", "ID3", "FORM"]

def probe (path : Path) : IO (Option FileEntry) := do
  match ← readOctets path.toString with
  | .ok octets =>
    if soundStarts.any fun start => (Text.Utf8.encode start.toList).isPrefixOf octets then
      return some .noInfo
    else return some .unknown
  | .error .isFolder => return some .directory
  | .error _ => return none

/-- The paths that an answer may have to open. -/
def soundPaths (settings : Settings) (ringtone : Option String) : List Path :=
  let device := settings.device
  let vibration := settings.resolver.vibrationSoundPath.string?.map Uri.ofFile
  let references := vibration.toList ++ ringtone.toList ++
    device.users.flatMap fun user => user.sounds.map Prod.snd
  let own := references.filterMap fun uri =>
    match Engine.target uri with
    | .ok path => path
    | .error _ => none
  let plain := references.filterMap fun uri =>
    if starts "file://" uri then some (Path.ofChars (uri.toList.drop 7)) else none
  device.ringtoneCache.toList ++ device.media.map Prod.snd ++ own ++ plain

def probeAll : List Path → IO Files
  | [] => return []
  | path :: rest => do
    let files ← probeAll rest
    match ← probe path with
    | none => return files
    | some entry => return Table.insert files path.toString entry

/-- The home directories of users by name, from the lines of the table of users. -/
def namedHomes (lines : List (List Char)) : Table (List Char) Text :=
  Table.ofPairs (lines.filterMap fun line =>
    match Text.splitOn ':' line with
    | name :: _ :: _ :: _ :: _ :: home :: _ => some (name, Text.ofChars home)
    | _ => none)

/-- The home directories that there are. -/
def homes : IO Path.Homes := do
  let own := (← IO.getEnv "HOME").map Text.ofString
  let table ← try IO.FS.readFile "/etc/passwd" catch _ => pure ""
  let users := namedHomes (Text.splitOn '\n' table.toList)
  return ⟨fun name =>
    if name.letters.isEmpty then own
    else if name.isString then users.get? name.chars
    else none⟩

/-- Answers a command from the disk. -/
def answer (homes : Path.Homes) (level : LogLevel) (command : Section) (options : Options) :
    IO Result := do
  match ← readConfig (namedConfig options) with
  | .error failure => return unopened failure
  | .ok octets =>
    let files ← match Settings.load homes octets with
      | .ok settings => probeAll (soundPaths settings (Given.toText? options.ringtone))
      | .error _ => pure []
    return answerLoaded homes level command options octets files

def result (homes : Path.Homes) (words : List String) : IO Result :=
  match readOptions words with
  | .error stop => return stopped stop
  | .ok (command, options) =>
    match levelOf options.logLevel with
    | .error failure => return silent (.failure failure)
    | .ok level => answer homes level command options

/-- What an end without a code says, and its code. -/
def ending : Exit → String × UInt32
  | .code n => ("", n.toUInt32)
  | .message text => (text ++ "\n", 1)
  | .invalidConfiguration (.invalid faults) =>
    ("Invalid configuration: " ++ toString faults.length ++ " fault(s)\n", 1)
  | .invalidConfiguration _ => ("Invalid configuration\n", 1)
  | .failure failure => (failure.report ++ "\n", 1)

end CallTone.Main

def main (words : List String) : IO UInt32 := do
  let result ← CallTone.Main.result (← CallTone.Main.homes) words
  let (text, code) := CallTone.Main.ending result.exit
  IO.print result.output
  IO.eprint (result.errorOutput ++ text)
  return code
