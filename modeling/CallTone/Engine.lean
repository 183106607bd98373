import CallTone.Audio
import CallTone.Notice
import CallTone.Table
import CallTone.Text.Numeral
import CallTone.Text.Percent
import CallTone.Uri
import CallTone.Value

/-!
The sound engine: it turns a reference into a handle that plays a file. A `file` reference names its
path itself, percent-encoded; every other reference is looked up by a locator. The path has to be a
file that is recognised as audio. A handle starts at full volume, and its volume stays between 0 and
1 whatever it is set to.
-/
namespace CallTone

/-- What stands at a path. Whether a file stands there can always be told: a path that the system
refuses even to look at, too long or in a closed folder, is not among these. -/
inductive FileEntry where
  /-- A sound file and its length in seconds, where it is known. -/
  | audio (length : Option Binary64)
  /-- A sound file that says nothing about itself. -/
  | noInfo
  /-- A file that is not recognised as a sound. -/
  | unknown
  /-- A file that cannot be read. -/
  | unreadable (failure : Failure)
  | directory
deriving DecidableEq

/-- What stands at each path, by the path's text. -/
abbrev Files := Table String FileEntry

/-- A sound that is ready to be played. -/
structure LoadedRingtone where
  uri : String
  path : Path
  /-- The length in seconds, where it is known. -/
  seconds : Option Binary64
  attributes : AudioAttributes
  shaper : Option VolumeShaper
  volume : Binary64
deriving DecidableEq

namespace LoadedRingtone

/-- A level brought between 0 and 1; what is not a number becomes 0. -/
def clamp (level : Binary64) : Binary64 := (Binary64.one).smaller ((Binary64.zero).larger level)

def setVolume (ringtone : LoadedRingtone) (level : Binary64) : LoadedRingtone :=
  { ringtone with volume := clamp level }

/-- The failure about a text or octets that write no level. -/
def notALevel (value : Value) : Failure :=
  ⟨.value, "could not convert string to float: " ++ value.shown⟩

/-- The level that octets write as a text of the first 128 characters. -/
def octetsLevel? (octets : List Nat) : Option Binary64 :=
  if octets.all (· < 0x80) then Text.readDecimal (octets.map Char.ofNat) else none

/-- The level that a raw value denotes. -/
def levelOf : Value → Except Failure Binary64
  | .bool b => .ok (Binary64.ofInt (if b then 1 else 0))
  | .int n =>
    match Binary64.ofInt? n with
    | some x => .ok x
    | none => .error ⟨.overflow, "int too large to convert to float"⟩
  | .real x => .ok x
  | .str t =>
    match t.string?.bind fun s => Text.readDecimal s.toList with
    | some x => .ok x
    | none => .error (notALevel (.str t))
  | .octets os =>
    match octetsLevel? os with
    | some x => .ok x
    | none => .error (notALevel (.octets os))
  | value =>
    .error ⟨.type, "float() argument must be a string or a real number, not '" ++
      value.fullKindName ++ "'"⟩

/-- The handle after an attempt to set its volume to a raw value. -/
def trySetVolume (ringtone : LoadedRingtone) (level : Value) : Except Failure LoadedRingtone :=
  (levelOf level).map ringtone.setVolume

/-- The handle in the form that shows its parts. -/
def shown (ringtone : LoadedRingtone) : String :=
  "LoadedRingtone(uri=" ++ Text.quoted ringtone.uri ++ ", path=" ++
    Text.quoted ringtone.path.toString ++ ", volume=" ++ ringtone.volume.text ++ ")"

end LoadedRingtone

namespace Engine

/-- A way to look up references in a context. -/
abbrev Locator := Context → String → Option Path

/-- What loading a sound came to: the outcome, what the locator was asked, and what was noted. -/
structure Loading where
  outcome : Except Failure LoadedRingtone
  asked : List (Context × String)
  notices : List Notice

/-- What a reference asks for: the path that it names itself, or none when it has to be looked up. -/
def target (uri : String) : Except Failure (Option Path) :=
  match Uri.parse uri with
  | .error fault => .error ⟨.value, fault.message⟩
  | .ok parsed =>
    if parsed.scheme = "file" then
      match Text.Percent.decode (parsed.authority ++ parsed.path).toList with
      | [] => .error ⟨.soundLoad, uri ++ ": empty file path"⟩
      | chars => .ok (some (Path.ofChars chars))
    else .ok none

/-- Opens the file at a path: the length that it gives, or the failure of the load. -/
def openFile (files : Files) (uri : String) (path : Path) : Except Failure (Option Binary64) :=
  match files.get? path.toString with
  | none | some .directory =>
    .error ⟨.soundLoad, uri ++ ": " ++ path.toString ++ " does not exist"⟩
  | some (.unreadable failure) =>
    if failure.kind = .decoding ∨ failure.kind.isSystemKind then
      .error ⟨.soundLoad, uri ++ ": cannot read " ++ path.toString ++ ": " ++ failure.message⟩
    else .error failure
  | some .unknown =>
    .error ⟨.soundLoad, uri ++ ": " ++ path.toString ++ " is not a recognised audio file"⟩
  | some .noInfo => .ok none
  | some (.audio length) => .ok length

def loadAt (files : Files) (uri : String) (path : Path) (shaper : Option VolumeShaper)
    (attributes : AudioAttributes) (asked : List (Context × String)) : Loading :=
  match openFile files uri path with
  | .error failure => ⟨.error failure, asked, []⟩
  | .ok seconds =>
    ⟨.ok ⟨uri, path, seconds, attributes, shaper, Binary64.one⟩, asked,
      [.soundLoaded uri path seconds]⟩

def load (files : Files) (locator : Locator) (context : Context) (uri : String)
    (shaper : Option VolumeShaper) (attributes : AudioAttributes) : Loading :=
  match target uri with
  | .error failure => ⟨.error failure, [], []⟩
  | .ok (some path) => loadAt files uri path shaper attributes []
  | .ok none =>
    match locator context uri with
    | none =>
      ⟨.error ⟨.soundLoad, uri ++ ": no media for user " ++ toString context.userId⟩,
        [(context, uri)], []⟩
    | some path => loadAt files uri path shaper attributes [(context, uri)]

end Engine
end CallTone
