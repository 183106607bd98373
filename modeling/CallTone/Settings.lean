import CallTone.Path
import CallTone.Table

/-!
Settings: what is configured about the resolver, the device with its users, and playback. These are
plain records; the check that makes them from a raw value stands beside them. Their texts are of a
type that is strings unless another one is named. Only the path of the vibration sound is a text in
general whatever that type is, since it is used as one.
-/
namespace CallTone

structure ResolverSettings (τ : Type := String) [Spelling τ] where
  packageName : τ := Spelling.ofString "org.ringtone.resolver"
  /-- The file whose haptic channels are played for a silent ring; empty when there is none. -/
  vibrationSoundPath : Text := ""
  enforceThreadCheck : Bool := true
deriving DecidableEq, Repr

structure UserSettings (τ : Type := String) where
  id : Int
  unlocked : Bool := true
  managed : Bool := false
  enabled : Bool := true
  parent : Option Int := none
  /-- The installed packages; when nothing is said, all are. -/
  packages : Option (List τ) := none
  sounds : Table τ τ := []
deriving DecidableEq, Repr

/-- The device: its users and its media. -/
structure DeviceSettings (τ : Type := String) where
  currentUser : Int := 0
  /-- A copy of the default ringtone that can be read while a user is locked. -/
  ringtoneCache : Option (Path τ) := none
  media : Table τ (Path τ) := []
  users : List (UserSettings τ) := [⟨0, true, false, true, none, none, []⟩]
deriving DecidableEq, Repr

structure PlaybackSettings where
  /-- How long the volume rises, in milliseconds; when nothing is said, it does not. -/
  rampMs : Option Int := none
deriving DecidableEq, Repr

structure Settings (τ : Type := String) [Spelling τ] where
  resolver : ResolverSettings τ := ⟨Spelling.ofString "org.ringtone.resolver", "", true⟩
  device : DeviceSettings τ := ⟨0, none, [], [⟨0, true, false, true, none, none, []⟩]⟩
  playback : PlaybackSettings := ⟨none⟩
deriving DecidableEq, Repr

end CallTone
