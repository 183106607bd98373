import CallTone.Audio
import CallTone.Settings
import CallTone.Settings.Reading
import CallTone.Sound

/-!
Validation: the settings that a raw value describes. Each section reads its fields in their declared
order, leaves unknown ones alone, and then checks its own rules. A device is consistent when its user
ids are distinct, its current user is one of them, and every parent is a configured user other than
the user itself. Paths that start with `~` are put under the home directory.
-/
namespace CallTone

open Settings (Checked)

/-- A path with the home directory put in. A name without a known home breaks the check off; one
that cannot be looked up is a fault. -/
def Settings.expandPath (homes : Path.Homes) (text : Text) : Checked (Path Text) :=
  match (Path.ofText text).expandHome homes with
  | .ok path => .valid path
  | .error .unknown => .broken ⟨.runtime, Path.HomeFault.unknown.message⟩
  | .error fault => .fault (.rule fault.message)

/-- A raw value as a path. What is not a text breaks the check off. -/
def Settings.readPath (homes : Path.Homes) : Value → Checked (Path Text)
  | .str text => Settings.expandPath homes text
  | .octets _ => .broken ⟨.type, "argument should be a str object or an os.PathLike object " ++
      "returning str, not <class 'bytes'>"⟩
  | value => .broken ⟨.type, "expected str, bytes or os.PathLike object, not " ++ value.kindName⟩

variable {τ : Type} [Spelling τ]

/-- A path as one of the type asked for. -/
def Settings.spellPath (path : Path Text) : Checked (Path τ) :=
  match path.ofWide? with
  | some written => .valid written
  | none => .fault .brokenText

/-- A raw value as a path of the type asked for. -/
def Settings.readSpelled (homes : Path.Homes) (value : Value) : Checked (Path τ) :=
  (Settings.readPath homes value).andThen Settings.spellPath

namespace ResolverSettings

/-- The path of the vibration sound with the home directory put in, when there is one. -/
def readVibration (homes : Path.Homes) (value : Value) : Checked Text :=
  (Settings.readText value).andThen fun text =>
    if text = ("" : Text) then .valid text else (Settings.expandPath homes text).map Path.toText

def read (homes : Path.Homes) (value : Value) : Checked (ResolverSettings τ) :=
  (Settings.readSection value).andThen fun fields =>
    (((Settings.readField fields "package_name" (Spelling.ofString "org.ringtone.resolver")
      Settings.readText).map ResolverSettings.mk).apply
      (Settings.readField fields "vibration_sound_path" "" (readVibration homes))).apply
      (Settings.readField fields "enforce_thread_check" true Settings.readTruth)

end ResolverSettings

namespace UserSettings

/-- The keys that are no sound settings, sorted. -/
def unknownSounds (sounds : Table τ τ) : List Text :=
  ((sounds.map fun entry => Spelling.text entry.1).filter fun key =>
    !(SoundKind.settingKeys.map Text.ofString).contains key).mergeSort fun a b => decide (a ≤ b)

def readSounds [DecidableEq τ] (value : Value) : Checked (Table τ τ) :=
  (Settings.readMap Settings.readText value).andThen fun sounds =>
    match unknownSounds sounds with
    | [] => .valid sounds
    | unknown =>
      .fault (.rule ("unknown sound setting(s): " ++
        String.intercalate ", " (unknown.map Text.told)))

def read [DecidableEq τ] (value : Value) : Checked (UserSettings τ) :=
  (Settings.readSection value).andThen fun fields =>
    (((((((Settings.readRequired fields "id" Settings.readWhole).map UserSettings.mk).apply
      (Settings.readField fields "unlocked" true Settings.readTruth)).apply
      (Settings.readField fields "managed" false Settings.readTruth)).apply
      (Settings.readField fields "enabled" true Settings.readTruth)).apply
      (Settings.readField fields "parent" none (Settings.readOptional Settings.readWhole))).apply
      (Settings.readField fields "packages" none
        (Settings.readOptional (Settings.readList Settings.readText)))).apply
      (Settings.readField fields "sounds" [] readSounds)

end UserSettings

namespace DeviceSettings

/-- The ways in which the users of a device do not fit together. Their messages write ids out in
full, however many digits they have. -/
inductive Inconsistency where
  | repeatedId
  | unknownCurrent (user : Int)
  | unknownParent (user parent : Int)
  | ownParent (user : Int)
deriving DecidableEq, Repr

def Inconsistency.message : Inconsistency → String
  | .repeatedId => "user ids must be unique"
  | .unknownCurrent user => "current_user " ++ toString user ++ " is not a configured user"
  | .unknownParent user parent =>
    "user " ++ toString user ++ " names unknown parent " ++ toString parent
  | .ownParent user => "user " ++ toString user ++ " cannot be its own parent"

/-- What is wrong with the parent of one user, when the ids are those of all users. -/
def parentFault? (ids : List Int) (user : UserSettings τ) : Option Inconsistency :=
  match user.parent with
  | none => none
  | some parent =>
    if parent ∉ ids then some (.unknownParent user.id parent)
    else if parent = user.id then some (.ownParent user.id)
    else none

/-- The first rule that the users break. -/
def inconsistency? (device : DeviceSettings τ) : Option Inconsistency :=
  let ids := device.users.map UserSettings.id
  if ¬ ids.Nodup then some .repeatedId
  else if device.currentUser ∉ ids then some (.unknownCurrent device.currentUser)
  else device.users.findSome? (parentFault? ids)

def readCache (homes : Path.Homes) : Value → Checked (Option (Path τ))
  | .null => .valid none
  | value => (Settings.readSpelled homes value).map some

/-- The paths of the media, expanded in order before any key is read. -/
def expandMedia (homes : Path.Homes) : List (Value × Value) → Checked (List (Value × Path Text))
  | [] => .valid []
  | (key, value) :: rest =>
    (Settings.readPath homes value).andThen fun path =>
      (expandMedia homes rest).map fun more => (key, path) :: more

/-- A medium whose path is expanded: its key, then its path. -/
def readMedium (entry : Value × Path Text) : Checked (τ × Path τ) :=
  Checked.both (((Settings.readText entry.1).under .key).under (Settings.stepOf entry.1))
    ((Settings.spellPath entry.2).under (Settings.stepOf entry.1))

/-- The media of the device. A value that counts as nothing stands for no media. -/
def readMedia [DecidableEq τ] (homes : Path.Homes) (value : Value) : Checked (Table τ (Path τ)) :=
  match value with
  | .map entries =>
    (expandMedia homes entries).andThen fun expanded =>
      (Checked.all readMedium expanded).map Table.ofPairs
  | other =>
    if other.isEmpty then .valid []
    else .broken ⟨.attribute, "'" ++ other.fullKindName ++ "' object has no attribute 'items'"⟩

/-- The device, when its users fit together. -/
def checkUsers (device : DeviceSettings τ) : Checked (DeviceSettings τ) :=
  match device.inconsistency? with
  | none => .valid device
  | some fault => .fault (.rule fault.message)

def read [DecidableEq τ] (homes : Path.Homes) (value : Value) : Checked (DeviceSettings τ) :=
  (Settings.readSection value).andThen fun fields =>
    ((((((Settings.readField fields "current_user" 0 Settings.readWhole).map
      DeviceSettings.mk).apply
      (Settings.readField fields "ringtone_cache" none (readCache homes))).apply
      (Settings.readField fields "media" [] (readMedia homes))).apply
      (Settings.readField fields "users" ({} : DeviceSettings τ).users
        (Settings.readList UserSettings.read))).andThen checkUsers)

end DeviceSettings

namespace PlaybackSettings

/-- How long the volume rises; when it is given, it is positive. -/
def readRamp (value : Value) : Checked (Option Int) :=
  (Settings.readOptional Settings.readWhole value).andThen fun ramp =>
    match ramp with
    | none => .valid none
    | some ms => if ms ≤ 0 then .fault (.rule "ramp_ms must be positive") else .valid ramp

def read (value : Value) : Checked PlaybackSettings :=
  (Settings.readSection value).andThen fun fields =>
    (Settings.readField fields "ramp_ms" none readRamp).map PlaybackSettings.mk

def volumeShaper (playback : PlaybackSettings) : Except VolumeShaper.Fault (Option VolumeShaper) :=
  match playback.rampMs with
  | none => .ok none
  | some ms => (VolumeShaper.ramp ms).map some

end PlaybackSettings

def Settings.read [DecidableEq τ] (homes : Path.Homes) (value : Value) : Checked (Settings τ) :=
  (Settings.readSection value).andThen fun fields =>
    (((Settings.readField fields "resolver" {} (ResolverSettings.read homes)).map Settings.mk).apply
      (Settings.readField fields "device" {} (DeviceSettings.read homes))).apply
      (Settings.readField fields "playback" {} PlaybackSettings.read)

end CallTone
