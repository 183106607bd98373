import CallTone.Proofs.RegisteredUsers
import CallTone.Proofs.SoundPlaces

/-! What a wired application plays for a call, as a rule about its settings and
files of now. The rule knows no requests, contexts or failures: it picks a user
for the call, tries the caller's ringtone for that user, and otherwise plays the
default of that user or of the current one. -/
namespace CallTone.SettingsRule
open RegisteredUsers SoundPlaces

/-- The sound that a user has chosen for a kind; an empty setting is no choice. -/
def chosen? (user : UserSettings) (kind : SoundKind) : Option String :=
  (user.sounds.get? kind.settingKey).filter (· ≠ "")

/-- The configured users that are the work profile of the current user. -/
def workUsers (settings : Settings) : List UserSettings :=
  settings.device.users.filter fun user =>
    user.id ≠ settings.device.currentUser ∧ user.parent = some settings.device.currentUser ∧
      user.enabled ∧ user.managed

/-- The work user, when the current user is configured and there is exactly one. -/
def workUser? (settings : Settings) : Option UserSettings :=
  match configured? settings settings.device.currentUser, workUsers settings with
  | some _, [user] => some user
  | _, _ => none

/-- Whether the user has the package of the resolver. -/
def HasResolver (settings : Settings) (user : UserSettings) : Prop :=
  ∀ packages, user.packages = some packages → settings.resolver.packageName ∈ packages

instance : Decidable (HasResolver settings user) :=
  match same : user.packages with
  | none => isTrue fun packages listed => by rw [same] at listed; cases listed
  | some packages =>
    decidable_of_iff (settings.resolver.packageName ∈ packages) (by simp [HasResolver, same])

/-- The user in whose name a call is answered. -/
def targetUser? (settings : Settings) (call : IncomingCall) : Option UserSettings :=
  (if call.isWorkContact then workUser? settings
    else call.associatedUser.bind fun user => configured? settings user.identifier).filter
    (HasResolver settings ·)

/-- The user with an id, when configured and unlocked. -/
def unlocked? (settings : Settings) (id : Int) : Option UserSettings :=
  (configured? settings id).filter UserSettings.unlocked

/-- Where a setting leads that is no alias. -/
def settingPlace (media : Table String Path) (sound : String) : Option Path :=
  if SoundKind.ofAlias? sound ≠ none then none
  else if Device.localStart.isPrefixOf sound.toList then
    some (Path.ofChars (sound.toList.drop Device.localStart.length))
  else media.get? sound

/-- Where a reference is looked up for the user with an id. -/
def lookedUp (settings : Settings) (id : Int) (uri : String) : Option Path :=
  match SoundKind.ofAlias? uri with
  | none => settings.device.media.get? uri
  | some kind =>
    match unlocked? settings id with
    | some user => (chosen? user kind).bind (settingPlace settings.device.media)
    | none => if kind = .ringtone then settings.device.ringtoneCache else none

/-- The handle that the engine loads for the user with an id. -/
def loadedFor (settings : Settings) (files : Files) (id : Int) (uri : String)
    (shaper : Option VolumeShaper) (attributes : AudioAttributes) : Option LoadedRingtone :=
  (Engine.load files (fun context uri => lookedUp settings context.userId uri)
    ⟨settings.resolver.packageName, ⟨id⟩⟩ uri shaper attributes).outcome.toOption

/-- The caller's ringtone with its handle, when there is one and it loads. -/
def callerSound (settings : Settings) (files : Files) (call : IncomingCall)
    (shaper : Option VolumeShaper) (attributes : AudioAttributes) :
    Option (String × LoadedRingtone) :=
  match targetUser? settings call, call.ringtone with
  | some user, some uri =>
    if uri = "" then none
    else (loadedFor settings files user.id uri shaper attributes).map (uri, ·)
  | _, _ => none

/-- The id of the user whose default is played. -/
def defaultUser (settings : Settings) (call : IncomingCall) : Int :=
  match targetUser? settings call with
  | some user => if chosen? user .ringtone ≠ none then user.id else settings.device.currentUser
  | none => settings.device.currentUser

/-- The default of the user with an id: the systemwide alias while the user is
not configured or locked. -/
def defaultSound (settings : Settings) (id : Int) : Option String :=
  match unlocked? settings id with
  | some user => chosen? user .ringtone
  | none => some SoundKind.ringtone.aliasUri

/-- The sound for a call and its handle. -/
def soundFor (settings : Settings) (files : Files) (call : IncomingCall)
    (shaper : Option VolumeShaper) (attributes : AudioAttributes) :
    Option (String × Option LoadedRingtone) :=
  match callerSound settings files call shaper attributes with
  | some (uri, handle) => some (uri, some handle)
  | none =>
    (defaultSound settings (defaultUser settings call)).map fun uri =>
      (uri, loadedFor settings files (defaultUser settings call) uri shaper attributes)

/-! Device and engine -/

theorem unlocked_registered (registered : Registered app) (id : Int) :
    app.device.isUnlocked id = (unlocked? app.settings id).isSome := by
  rw [Device.isUnlocked, registered_user registered, unlocked?]
  cases configured? app.settings id with
  | none => rfl
  | some user => cases open_now : user.unlocked <;> simp [open_now]

theorem unlocked_configured {id : Int} (found : unlocked? settings id = some user) :
    configured? settings id = some user :=
  (Option.filter_eq_some_iff.mp found).1

private theorem empty_is_unset (setting : Option String) :
    (if setting.getD "" = "" then none else some (setting.getD "")) = setting.filter (· ≠ "") := by
  cases setting with
  | none => rfl
  | some sound => by_cases empty : sound = "" <;> simp [empty, Option.filter_some]

/-- The sound that the device gives for a configured user is the one that the
user has chosen. -/
theorem default_registered (registered : Registered app) (context : Context) (kind : SoundKind)
    (known : configured? app.settings context.userId = some user) :
    app.device.actualDefault context kind = chosen? user kind := by
  rw [Device.actualDefault, Device.stringFor, registered_user registered, known, chosen?]
  exact empty_is_unset (user.sounds.get? kind.settingKey)

private theorem locate_registered (registered : Registered app) (context : Context)
    (uri : String) : app.device.locate context uri = lookedUp app.settings context.userId uri := by
  unfold Device.locate lookedUp
  cases SoundKind.ofAlias? uri with
  | none => rfl
  | some kind =>
    dsimp only
    rw [unlocked_registered registered]
    cases found : unlocked? app.settings context.userId with
    | none => rfl
    | some user =>
      have placed : app.device.locateSetting = settingPlace app.settings.device.media := by
        funext sound
        simp [Device.locateSetting, settingPlace, App.device, Option.isSome_iff_ne_none]
      rw [default_registered registered context kind (unlocked_configured found), placed]
      rfl

/-- The application loads for a context what the rule loads for its user. -/
theorem load_registered (registered : Registered app) (context : Context) (uri : String)
    (shaper : Option VolumeShaper) (attributes : AudioAttributes) :
    (app.load context uri shaper attributes).outcome.toOption =
      loadedFor app.settings app.files context.userId uri shaper attributes := by
  rw [App.load, loadedFor, loaded_handle, loaded_handle]
  simp only [placeOf, locate_registered registered]
  rfl

end CallTone.SettingsRule
