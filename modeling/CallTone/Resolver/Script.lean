import CallTone.Resolver.Dialogue
import CallTone.Table

/-!
Scripted parts: parts around the resolver that answer from a script, to try the resolver without a
device. The script says which users, profiles, settings and sounds there are, and which requests
fail.
-/
namespace CallTone

/-- What a script says about a sound. -/
inductive Script.Sound where
  | loads
  /-- There is nothing to play, and no failure. -/
  | nothing
  | fails (failure : Failure)
deriving DecidableEq

/-- A script. Users are named by the text of their id. -/
structure Script where
  sessionUser : Int
  baseUser : Int
  /-- The users and whether they are managed, by the user whose profiles they are. -/
  profiles : Table String (List (Int × Bool))
  /-- Users without any package. -/
  missing : List Int
  locked : List Int
  strings : Table String (Table String String)
  defaults : Table String (Option String)
  systemDefault : Option String
  sounds : Table String Script.Sound
  /-- The requests that fail, by name. -/
  failures : Table String Failure

/-- A handle that remembers how it was asked for. -/
structure ScriptedRingtone where
  context : Context
  uri : String
  volume : Binary64
  shaper : Option VolumeShaper
  attributes : AudioAttributes
deriving DecidableEq

def Request.name {Handle : Type} : Request Handle → String
  | .baseContext => "base_context"
  | .scopedContext .. => "create_scoped_context"
  | .enabledProfiles _ => "enabled_profiles"
  | .isUnlocked _ => "is_user_unlocked"
  | .stringFor .. => "get_string_for_user"
  | .actualDefault .. => "actual_default_sound_uri"
  | .systemDefault _ => "system_default_uri"
  | .load .. => "get_ringtone"
  | .setVolume .. => "set_volume"
  | .currentUser => "current_user_handle"

namespace Script

/-- What the script answers to a request that it does not let fail. -/
def answer (script : Script) : (r : Request ScriptedRingtone) → Except Failure r.Reply
  | .baseContext => .ok ⟨"base", ⟨script.baseUser⟩⟩
  | .scopedContext package _ user =>
    if script.missing.contains user.identifier then .error ⟨.packageNotFound, package⟩
    else .ok ⟨package, user⟩
  | .enabledProfiles userId =>
    .ok (((script.profiles.get? (toString userId)).getD []).map fun entry =>
      ⟨⟨entry.1⟩, entry.2, true, none⟩)
  | .isUnlocked userId => .ok (!script.locked.contains userId)
  | .stringFor _ key userId =>
    .ok ((((script.strings.get? (toString userId)).getD []).get? key).getD "")
  | .actualDefault context _ => .ok ((script.defaults.get? (toString context.userId)).getD none)
  | .systemDefault _ => .ok script.systemDefault
  | .load context uri shaper attributes =>
    match (script.sounds.get? uri).getD .loads with
    | .loads => .ok (some ⟨context, uri, Binary64.one, shaper, attributes⟩)
    | .nothing => .ok none
    | .fails failure => .error failure
  | .setVolume handle level => .ok { handle with volume := level }
  | .currentUser => .ok ⟨script.sessionUser⟩

/-- The parts that follow the script. -/
def collaborators (script : Script) : Dialogue.Collaborators ScriptedRingtone Unit := fun _ r =>
  match script.failures.get? r.name with
  | some failure => ⟨.error failure, [], ()⟩
  | none => ⟨script.answer r, [], ()⟩

end Script
end CallTone
