import CallTone.App

/-!
Edits: changes of an application between queries. An edit writes one field of the settings or one
file as it stands, without the checks that new settings pass.
-/
namespace CallTone

/-- A change of one field of a user. -/
inductive UserSettings.Edit where
  | id (value : Int)
  | unlocked (value : Bool)
  | managed (value : Bool)
  | enabled (value : Bool)
  | parent (value : Option Int)
  | packages (value : Option (List String))
  | sounds (value : Table String String)
deriving DecidableEq, Repr

def UserSettings.edit (user : UserSettings) : UserSettings.Edit → UserSettings
  | .id value => { user with id := value }
  | .unlocked value => { user with unlocked := value }
  | .managed value => { user with managed := value }
  | .enabled value => { user with enabled := value }
  | .parent value => { user with parent := value }
  | .packages value => { user with packages := value }
  | .sounds value => { user with sounds := value }

/-- A change of one field of the resolver's settings. -/
inductive ResolverSettings.Edit where
  | packageName (value : String)
  | vibrationSoundPath (value : Text)
  | enforceThreadCheck (value : Bool)
deriving DecidableEq, Repr

def ResolverSettings.edit (settings : ResolverSettings) : ResolverSettings.Edit → ResolverSettings
  | .packageName value => { settings with packageName := value }
  | .vibrationSoundPath value => { settings with vibrationSoundPath := value }
  | .enforceThreadCheck value => { settings with enforceThreadCheck := value }

inductive Device.Edit where
  /-- A field of the user registered under an id. -/
  | user (id : Int) (edit : UserSettings.Edit)
  | currentUser (value : Int)
  | ringtoneCache (value : Option Path)
  /-- The path of a medium, or its removal. -/
  | media (uri : String) (path : Option Path)
deriving DecidableEq, Repr

namespace Device

/-- The users with the one registered under an id changed. -/
def editUser (registered : List Int) (users : List UserSettings) (id : Int)
    (edit : UserSettings.Edit) : List UserSettings :=
  match registered, users with
  | key :: keys, user :: rest =>
    if key = id then user.edit edit :: rest else user :: editUser keys rest id edit
  | _, users => users

def editSettings (registered : List Int) (settings : DeviceSettings) : Edit → DeviceSettings
  | .user id edit => { settings with users := editUser registered settings.users id edit }
  | .currentUser value => { settings with currentUser := value }
  | .ringtoneCache value => { settings with ringtoneCache := value }
  | .media uri (some path) => { settings with media := settings.media.insert uri path }
  | .media uri none => { settings with media := settings.media.erase uri }

def edit (device : Device) (edit : Edit) : Device :=
  { device with settings := editSettings device.registered device.settings edit }

end Device

/-- The files with what stands at a path changed or removed. -/
def Files.write (files : Files) (path : String) : Option FileEntry → Files
  | none => Table.erase files path
  | some entry => Table.insert files path entry

inductive App.Edit where
  | device (edit : Device.Edit)
  | resolver (edit : ResolverSettings.Edit)
  | ramp (value : Option Int)
  | file (path : String) (entry : Option FileEntry)

def App.edit (app : App) : App.Edit → App
  | .device edit =>
    { app with settings := { app.settings with
        device := Device.editSettings app.registered app.settings.device edit } }
  | .resolver edit =>
    { app with settings := { app.settings with resolver := app.settings.resolver.edit edit } }
  | .ramp value => { app with settings := { app.settings with playback := ⟨value⟩ } }
  | .file path entry => { app with files := app.files.write path entry }

end CallTone
