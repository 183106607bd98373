import CallTone.Proofs.ValidSections

/-! What validated settings promise about their users. Every device that passes
validation has been through the check of its users, the one without a section
included. -/
namespace CallTone.ValidatedUsers
open Settings ValidSections

/-! Rules -/

variable {τ : Type}

/-- A user without parent, or with another user of the device as parent. -/
def FittingParent (device : DeviceSettings τ) (user : UserSettings τ) : Prop :=
  ∀ parent, user.parent = some parent →
    parent ∈ device.users.map UserSettings.id ∧ parent ≠ user.id

/-- The users of a device fit together. -/
structure Consistent (device : DeviceSettings τ) : Prop where
  distinct : (device.users.map UserSettings.id).Nodup
  current : device.currentUser ∈ device.users.map UserSettings.id
  parents : ∀ user ∈ device.users, FittingParent device user

section
variable {device : DeviceSettings τ} {user : UserSettings τ}

theorem parent_fault_none :
    DeviceSettings.parentFault? (device.users.map UserSettings.id) user = none ↔
      FittingParent device user := by
  unfold DeviceSettings.parentFault? FittingParent
  cases user.parent with
  | none => simp
  | some parent =>
    by_cases configured : parent ∈ device.users.map UserSettings.id <;>
      by_cases own : parent = user.id <;> simp_all

/-- The check of all users passes exactly for a consistent device. -/
theorem consistent_iff : device.inconsistency? = none ↔ Consistent device := by
  unfold DeviceSettings.inconsistency?
  constructor
  · intro passed
    dsimp only at passed
    split at passed
    next => cases passed
    next distinct =>
      split at passed
      next => cases passed
      next current =>
        refine ⟨Decidable.not_not.mp distinct, Decidable.not_not.mp current, fun user member => ?_⟩
        exact parent_fault_none.mp (List.findSome?_eq_none_iff.mp passed user member)
  · rintro ⟨distinct, current, parents⟩
    simp only [distinct, current, not_true_eq_false, if_false]
    exact List.findSome?_eq_none_iff.mpr fun user member =>
      parent_fault_none.mpr (parents user member)

instance (device : DeviceSettings τ) : Decidable (Consistent device) :=
  decidable_of_iff _ consistent_iff

end

/-! Validation -/

variable [DecidableEq τ] [Spelling τ] {settings : Settings τ}

/-- The users of validated settings fit together. -/
theorem validated_consistent (valid : Settings.read home raw = .valid settings) :
    settings.device.inconsistency? = none := by
  obtain ⟨fields, -, -, checked, -⟩ := settings_valid.mp valid
  rcases read_field_valid checked with absent | ⟨value, checked⟩
  · rw [absent]
    rfl
  · obtain ⟨_, -, -, -, -, -, consistent⟩ := device_valid.mp checked
    exact consistent

omit [DecidableEq τ] [Spelling τ] in
theorem consistent_ids {device : DeviceSettings τ} (consistent : device.inconsistency? = none) :
    (device.users.map UserSettings.id).Nodup :=
  (consistent_iff.mp consistent).distinct

/-- No two users of validated settings have the same id. -/
theorem validated_ids (valid : Settings.read home raw = .valid settings) :
    (settings.device.users.map UserSettings.id).Nodup :=
  consistent_ids (validated_consistent valid)

omit [DecidableEq τ] [Spelling τ] in
theorem consistent_current {device : DeviceSettings τ} (consistent : device.inconsistency? = none) :
    device.currentUser ∈ device.users.map UserSettings.id :=
  (consistent_iff.mp consistent).current

/-- The current user of validated settings is one of the users. -/
theorem validated_current (valid : Settings.read home raw = .valid settings) :
    settings.device.currentUser ∈ settings.device.users.map UserSettings.id :=
  consistent_current (validated_consistent valid)

end CallTone.ValidatedUsers
