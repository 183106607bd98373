import CallTone.Proofs.DescribedDevices
import CallTone.Proofs.ValidatedUsers

/-! Which described devices are accepted, and what is told of the others. The sounds of
each user are looked at first, and every user with unknown ones is told of; only when
there is none are the users looked at together, up to the first rule that they break. -/
namespace CallTone.DeviceConsistency
open Settings DescribedDevices ValidatedUsers

variable {τ : Type} [Spelling τ]

/-! Rules -/

/-- The keys that sound settings may have. -/
def soundKeys : List Text := ["ringtone", "notification_sound", "alarm_alert"]

/-- The keys of a user's sounds. -/
def keysOf (user : UserSettings τ) : List Text := user.sounds.map fun entry => Spelling.text entry.1

/-- No sound is set under another key. -/
def KnownSounds (user : UserSettings τ) : Prop := ∀ key ∈ keysOf user, key ∈ soundKeys

instance (user : UserSettings τ) : Decidable (KnownSounds user) :=
  inferInstanceAs (Decidable (∀ key ∈ keysOf user, key ∈ soundKeys))

/-! Verdicts -/

section
variable [DecidableEq τ]

end

theorem unknown_mem (user : UserSettings τ) (key : Text) :
    key ∈ UserSettings.unknownSounds user.sounds ↔ key ∈ keysOf user ∧ key ∉ soundKeys := by
  have known : SoundKind.settingKeys.map Text.ofString = soundKeys := rfl
  simp [UserSettings.unknownSounds, known, keysOf]

theorem known_iff (user : UserSettings τ) :
    KnownSounds user ↔ UserSettings.unknownSounds user.sounds = [] := by
  rw [List.eq_nil_iff_forall_not_mem]
  simp only [KnownSounds, unknown_mem, not_and, Decidable.not_not]

/-! Users one by one -/

section
variable {device : DeviceSettings τ} {user : UserSettings τ}

end

/-! Main result -/

variable [DecidableEq τ]

end CallTone.DeviceConsistency
