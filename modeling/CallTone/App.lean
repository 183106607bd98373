import CallTone.Device
import CallTone.Engine
import CallTone.Resolver
import CallTone.Settings.Validation

/-!
The application: a configured device, the sound engine over its files, and a resolver that asks
them. It is wired once from settings. The thread guard, the registered users and the device's package
are fixed then; everything else is read from the settings and the files at each query, so that a
change of them shows in the next query.
-/
namespace CallTone

structure App where
  settings : Settings
  /-- The ids that the users were registered under. -/
  registered : List Int
  /-- The package that the device was wired for. -/
  packageName : String
  guard : Guard
  files : Files

namespace App

/-- The application of settings and files, with a thread guard of its own or the one that the
settings ask for. -/
def wire (settings : Settings) (guard : Option Guard) (files : Files) : App :=
  ⟨settings, settings.device.users.map UserSettings.id, settings.resolver.packageName,
    (Resolver.make (some settings.resolver) guard).guard, files⟩

def device (app : App) : Device := ⟨app.settings.device, app.registered, app.packageName⟩

def resolver (app : App) : Resolver := ⟨app.settings.resolver, app.guard⟩

/-- Loads a sound with the files and media of now. -/
def load (app : App) (context : Context) (uri : String) (shaper : Option VolumeShaper)
    (attributes : AudioAttributes) : Engine.Loading :=
  Engine.load app.files app.device.locate context uri shaper attributes

/-- How device and engine answer the resolver. -/
def reply (app : App) : (r : Request LoadedRingtone) → Except Failure r.Reply × List Notice
  | .baseContext => (.ok app.device.baseContext, [])
  | .scopedContext package _ user => (app.device.scopedContext package user, [])
  | .enabledProfiles userId => (app.device.enabledProfiles userId, [])
  | .isUnlocked userId => (.ok (app.device.isUnlocked userId), [])
  | .stringFor _ key userId => (.ok (app.device.stringFor key userId), [])
  | .actualDefault context kind => (.ok (app.device.actualDefault context kind), [])
  | .systemDefault kind => (.ok (Device.systemDefault kind), [])
  | .load context uri shaper attributes =>
    let loading := app.load context uri shaper attributes
    (loading.outcome.map some, loading.notices)
  | .setVolume handle level => (.ok (handle.setVolume level), [])
  | .currentUser => (.ok app.device.currentUser, [])

/-- Device and engine as the parts around the resolver; they keep no state of their own. -/
def collaborators (app : App) : Dialogue.Collaborators LoadedRingtone Unit := fun _ r =>
  ⟨(app.reply r).1, (app.reply r).2, ()⟩

/-- What a query answers: its result and the notices written on the way. -/
structure Answer (α : Type) where
  result : Except Failure α
  notices : List Notice

def Answer.map {α β : Type} (f : α → β) (answer : Answer α) : Answer β :=
  ⟨answer.result.map f, answer.notices⟩

/-- Holds a dialogue of the resolver with device and engine. -/
def hold {α : Type} (app : App) (dialogue : Dialogue LoadedRingtone α) : Answer α :=
  let outcome := dialogue.hold app.collaborators ()
  ⟨outcome.result, outcome.notices⟩

/-- A thread for blocking work. -/
def worker : Thread := ⟨1, "ringtone_0"⟩

def volumeShaper (app : App) : Except Failure (Option VolumeShaper) :=
  app.settings.playback.volumeShaper.mapError VolumeShaper.Fault.failure

/-- The sound for an incoming call, with the configured volume curve. -/
def getRingtone (app : App) (thread : Thread) (call : IncomingCall) (hapticChannelsMuted : Bool) :
    Answer (Option (Selection LoadedRingtone)) :=
  match app.volumeShaper with
  | .error failure => ⟨.error failure, []⟩
  | .ok shaper => app.hold (app.resolver.getRingtone thread call shaper hapticChannelsMuted)

def getHapticOnly (app : App) (thread : Thread) : Answer (Selection LoadedRingtone) :=
  app.hold (app.resolver.getHapticOnly thread)

def workProfileContext (app : App) (user : UserHandle) : Answer (Option Context) :=
  app.hold (app.resolver.workProfileContext user)

/-- The context of the resolver's package for a user. -/
def contextForUser (app : App) (user : Option UserHandle) : Answer (Option Context) :=
  app.hold (app.resolver.contextForUser user)

/-- The call with the current user put in when it is associated with none. -/
def withUser (app : App) (call : IncomingCall) : IncomingCall :=
  { call with associatedUser := some (call.associatedUser.getD app.device.currentUser) }

end App
end CallTone
