import CallTone.Guard
import CallTone.Resolver.Dialogue
import CallTone.Settings
import CallTone.Uri

/-!
The resolver: it picks the sound for an incoming call.

The ringtone chosen for the caller is played when it can be loaded in the context of the call: the
work profile for a work contact, else the user whom the call is for. Otherwise the default is
played: that of the context's user when the user has one, else that of the program's own user. While
that user is locked, the systemwide alias stands in for the default. Nothing is remembered from one
call to the next.

Failures of the parts around the resolver are noted and passed over wherever there is something else
to play.
-/
namespace CallTone

/-- A resolver: its settings, and the thread guard that it was given. -/
structure Resolver where
  settings : ResolverSettings
  guard : Guard
deriving DecidableEq, Repr

namespace Resolver

variable {Handle : Type}

open Dialogue (request attempt tell)

/-- A resolver with the given settings and guard; without a guard, the settings say whether one is
enabled. -/
def make (settings : Option ResolverSettings) (guard : Option Guard) : Resolver :=
  let settings := settings.getD {}
  ⟨settings, guard.getD (Guard.ofMain settings.enforceThreadCheck)⟩

def checkThread (resolver : Resolver) (operation : String) (thread : Thread) :
    Dialogue Handle Unit :=
  .finish (resolver.guard.check operation thread)

/-- The context of the resolver's package for a user. A missing package is noted. -/
def contextForUser (resolver : Resolver) : Option UserHandle → Dialogue Handle (Option Context)
  | none => return none
  | some user => do
    match ← attempt (.scopedContext resolver.settings.packageName 0 user) with
    | .ok context => return some context
    | .error failure =>
      if failure.kind = .packageNotFound then
        tell (.packageMissing failure)
        return none
      else .finish (.error failure)

/-- The profiles that could be the work profile of a user. -/
def managedOthers (user : UserHandle) (profiles : List ProfileInfo) : List ProfileInfo :=
  profiles.filter fun profile => profile.user ≠ user && profile.managed

/-- What is kept of the profiles that were gone through: how many of them could be the work profile,
and whose the last of these is. -/
structure ManagedTally where
  count : Nat
  last : Option UserHandle
deriving DecidableEq, Repr

/-- The tally with one more profile gone through. -/
def ManagedTally.see (user : UserHandle) (tally : ManagedTally) (profile : ProfileInfo) :
    ManagedTally :=
  if profile.user ≠ user && profile.managed then ⟨tally.count + 1, some profile.user⟩ else tally

/-- The tally of all profiles of a user. -/
def tallyManaged (user : UserHandle) (profiles : List ProfileInfo) : ManagedTally :=
  profiles.foldl (ManagedTally.see user) ⟨0, none⟩

/-- The context of the work profile of a user, when there is exactly one. -/
def workProfileContext (resolver : Resolver) (user : UserHandle) :
    Dialogue Handle (Option Context) := do
  match ← attempt (.enabledProfiles user.identifier) with
  | .error failure =>
    tell (.profilesUnreadable user failure)
    return none
  | .ok profiles =>
    let managed := tallyManaged user profiles
    if managed.count = 1 then resolver.contextForUser managed.last
    else if 1 < managed.count then
      tell (.severalProfiles managed.count user)
      return none
    else return none

def callContext (resolver : Resolver) (call : IncomingCall) : Dialogue Handle (Option Context) := do
  if call.isWorkContact then
    let user ← request .currentUser
    resolver.workProfileContext user
  else resolver.contextForUser call.associatedUser

/-- A handle that plays a sound. A failure to load it is noted. -/
def build (context : Context) (uri : String) (shaper : Option VolumeShaper)
    (attributes : AudioAttributes) : Dialogue Handle (Option Handle) := do
  match ← attempt (.load context uri shaper attributes) with
  | .ok handle => return handle
  | .error failure =>
    tell (.soundFailed uri failure)
    return none

/-- The selection of the caller's ringtone, when there is one and it can be loaded. -/
def callerSelection (context : Option Context) (ringtone : Option String)
    (shaper : Option VolumeShaper) (attributes : AudioAttributes) :
    Dialogue Handle (Option (Selection Handle)) :=
  match context, ringtone with
  | some context, some uri =>
    if given : uri ≠ "" then do
      match ← build context uri shaper attributes with
      | some handle => return some ⟨uri, some handle, given⟩
      | none => return none
    else return none
  | _, _ => return none

def hasOwnDefault : Option Context → Dialogue Handle Bool
  | none => return false
  | some context => do
    match ← attempt (.stringFor context SoundKind.ringtone.settingKey context.userId) with
    | .ok value => return value ≠ ""
    | .error failure =>
      tell (.settingUnreadable context.user failure)
      return false

/-- What the settings store gives as the default ringtone: the user's own while the user is unlocked,
else the systemwide alias. -/
def storedDefault (context : Context) (unlocked : Bool) :
    Dialogue Handle (Except Failure (Option String)) :=
  if unlocked then attempt (.actualDefault context .ringtone)
  else attempt (.systemDefault .ringtone)

def defaultUri (context : Context) : Dialogue Handle (Option String) := do
  match ← attempt (.isUnlocked context.userId) with
  | .error failure =>
    tell (.defaultUnreadable context.user failure)
    return none
  | .ok unlocked =>
    match ← storedDefault context unlocked with
    | .error failure =>
      tell (.defaultUnreadable context.user failure)
      return none
    | .ok none =>
      tell (if unlocked then .defaultUnset context.user else .systemDefaultUnset)
      return none
    | .ok (some uri) => return some uri

/-- The context whose default is played: that of the call when its user has a default, else the
program's own. -/
def defaultContext (context : Option Context) : Dialogue Handle Context := do
  match context, ← hasOwnDefault context with
  | some own, true => return own
  | _, _ => request .baseContext

/-- The selection of the default ringtone, when there is one. -/
def defaultSelection (context : Option Context) (shaper : Option VolumeShaper)
    (attributes : AudioAttributes) : Dialogue Handle (Option (Selection Handle)) := do
  let context ← defaultContext context
  match ← defaultUri context with
  | none => return none
  | some uri =>
    if given : uri ≠ "" then
      let handle ← build context uri shaper attributes
      return some ⟨uri, handle, given⟩
    else return none

/-- The sound to play for an incoming call. -/
def getRingtone (resolver : Resolver) (thread : Thread) (call : IncomingCall)
    (shaper : Option VolumeShaper) (hapticChannelsMuted : Bool) :
    Dialogue Handle (Option (Selection Handle)) := do
  resolver.checkThread "get_ringtone" thread
  let attributes := AudioAttributes.ringtone hapticChannelsMuted
  let context ← resolver.callContext call
  match ← callerSelection context call.ringtone shaper attributes with
  | some selection => return some selection
  | none => defaultSelection context shaper attributes

theorem ofFile_ne_empty (path : String) : Uri.ofFile path ≠ "" := by
  intro empty
  have := congrArg String.length empty
  simp [Uri.ofFile] at this

/-- The selection of a file that is to vibrate only: its sound at no volume. -/
def hapticSelection (path : String) : Dialogue Handle (Selection Handle) := do
  let uri := Uri.ofFile path
  let context ← request .baseContext
  match ← build context uri none (AudioAttributes.ringtone false) with
  | none => return ⟨uri, none, ofFile_ne_empty _⟩
  | some handle =>
    let silent ← request (.setVolume handle Binary64.zero)
    return ⟨uri, some silent, ofFile_ne_empty _⟩

/-- The sound for a silent ring that should still vibrate: the vibration sound at no volume. A path
that cannot be encoded is handed on as a failure. -/
def getHapticOnly (resolver : Resolver) (thread : Thread) :
    Dialogue Handle (Selection Handle) := do
  resolver.checkThread "get_haptic_only_ringtone" thread
  match resolver.settings.vibrationSoundPath.strict with
  | .error stray => .finish (.error (Uri.unencodable stray))
  | .ok path => hapticSelection path

end Resolver
end CallTone
