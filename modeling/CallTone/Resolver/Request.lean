import CallTone.Audio
import CallTone.Call
import CallTone.Sound

/-!
Requests: what the resolver asks of the parts around it, which know the users and their profiles,
keep sound settings, know whose session it is, and load sounds. Each request has its own kind of
reply. A part that cannot reply fails.
-/
namespace CallTone

/-- A request of the resolver; sounds are played through handles of one type. -/
inductive Request (Handle : Type) where
  /-- The context of the program itself. -/
  | baseContext
  /-- The context of a package for a user. -/
  | scopedContext (package : String) (flags : Int) (user : UserHandle)
  /-- The enabled profiles of a user. -/
  | enabledProfiles (userId : Int)
  /-- Whether a user is unlocked. -/
  | isUnlocked (userId : Int)
  /-- A sound setting of a user. -/
  | stringFor (context : Context) (key : String) (userId : Int)
  /-- The sound that the user of a context has set for a kind. -/
  | actualDefault (context : Context) (kind : SoundKind)
  /-- The reference that stands for the default of a kind. -/
  | systemDefault (kind : SoundKind)
  /-- A handle that plays a sound. -/
  | load (context : Context) (uri : String) (shaper : Option VolumeShaper)
      (attributes : AudioAttributes)
  /-- Another volume of a handle. -/
  | setVolume (handle : Handle) (level : Binary64)
  /-- The user of the session. -/
  | currentUser

/-- What a request is replied with. A changed volume is replied with the changed handle. -/
abbrev Request.Reply {Handle : Type} : Request Handle → Type
  | .baseContext => Context
  | .scopedContext .. => Context
  | .enabledProfiles _ => List ProfileInfo
  | .isUnlocked _ => Bool
  | .stringFor .. => String
  | .actualDefault .. => Option String
  | .systemDefault _ => Option String
  | .load .. => Option Handle
  | .setVolume .. => Handle
  | .currentUser => UserHandle

end CallTone
