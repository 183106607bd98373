import CallTone.Call
import CallTone.Settings
import CallTone.Sound

/-!
The configured device: what the device section of the settings answers about users, profiles, sound
settings and media. A device is wired once: its users are registered then under the ids that they
have, and its package name is fixed. Everything else is read from the settings as they are.

A locked user's own sounds are out of reach; of the systemwide aliases only the one for the ringtone
leads anywhere then, to the cached copy.
-/
namespace CallTone

/-- A device: its settings, the ids that its users were registered under, and its package. -/
structure Device where
  settings : DeviceSettings
  registered : List Int
  packageName : String
deriving DecidableEq, Repr

namespace Device

/-- The device of settings, wired for a package. -/
def wire (settings : DeviceSettings) (packageName : String) : Device :=
  ⟨settings, settings.users.map UserSettings.id, packageName⟩

def user? (device : Device) (id : Int) : Option UserSettings :=
  (device.registered.zip device.settings.users).lookup id

def currentUser (device : Device) : UserHandle := ⟨device.settings.currentUser⟩

/-- The context of the device's own package and its current user. -/
def baseContext (device : Device) : Context := ⟨device.packageName, device.currentUser⟩

def hasPackage (user : UserSettings) (package : String) : Bool :=
  match user.packages with
  | none => true
  | some packages => packages.contains package

/-- The context of a package and a user, when the user is registered and has the package. -/
def scopedContext (device : Device) (package : String) (user : UserHandle) :
    Except Failure Context :=
  match device.user? user.identifier with
  | none =>
    .error ⟨.packageNotFound,
      package ++ " (no such user " ++ toString user.identifier ++ ")"⟩
  | some configured =>
    if hasPackage configured package then .ok ⟨package, user⟩
    else
      .error ⟨.packageNotFound,
        package ++ " not installed for user " ++ toString configured.id⟩

def profileOf (user : UserSettings) : ProfileInfo := ⟨⟨user.id⟩, user.managed, user.enabled, user.parent⟩

/-- Whether a user is the owner or one of the owner's children, and enabled. -/
def isEnabledProfileOf (owner user : UserSettings) : Bool :=
  (user.id == owner.id || user.parent == some owner.id) && user.enabled

/-- The enabled profiles of a user, the user itself included. -/
def enabledProfiles (device : Device) (userId : Int) : Except Failure (List ProfileInfo) :=
  match device.user? userId with
  | none => .error ⟨.config, "unknown user " ++ toString userId⟩
  | some owner => .ok ((device.settings.users.filter (isEnabledProfileOf owner)).map profileOf)

def isUnlocked (device : Device) (userId : Int) : Bool :=
  match device.user? userId with
  | none => false
  | some user => user.unlocked

/-- A sound setting of a user; what is not set is empty. -/
def stringFor (device : Device) (key : String) (userId : Int) : String :=
  match device.user? userId with
  | none => ""
  | some user => (user.sounds.get? key).getD ""

/-- The sound that the user of a context has set for a kind. -/
def actualDefault (device : Device) (context : Context) (kind : SoundKind) : Option String :=
  let value := device.stringFor kind.settingKey context.userId
  if value = "" then none else some value

def systemDefault (kind : SoundKind) : Option String := some kind.aliasUri

/-- What a reference to a local file starts with when it is written in the plain way. -/
def localStart : List Char := "file://".toList

/-- Where the sound that a user has set is found. A setting that is itself an alias leads nowhere. -/
def locateSetting (device : Device) (actual : String) : Option Path :=
  if (SoundKind.ofAlias? actual).isSome then none
  else if localStart.isPrefixOf actual.toList then
    some (Path.ofChars (actual.toList.drop localStart.length))
  else device.settings.media.get? actual

/-- Where a reference is found for the user of a context. -/
def locate (device : Device) (context : Context) (uri : String) : Option Path :=
  match SoundKind.ofAlias? uri with
  | none => device.settings.media.get? uri
  | some kind =>
    if device.isUnlocked context.userId then
      (device.actualDefault context kind).bind device.locateSetting
    else if kind = .ringtone then device.settings.ringtoneCache
    else none

end Device
end CallTone
