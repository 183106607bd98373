import CallTone.Settings.Validation

/-! Valid sections. A section is valid exactly when it is a map and each of its fields is
valid, absent ones as their defaults, so that what a section reads can be told without
following how faults are gathered on the way. A device has its users checked besides. -/
namespace CallTone.ValidSections
open Settings

/-! Steps -/

theorem and_then_valid {first : Checked α} {next : α → Checked β} :
    first.andThen next = .valid value ↔
      ∃ middle, first = .valid middle ∧ next middle = .valid value := by
  cases first <;> simp [Checked.andThen]

theorem apply_valid {first : Checked (α → β)} {second : Checked α} :
    first.apply second = .valid value ↔
      ∃ function argument, first = .valid function ∧ second = .valid argument ∧
        function argument = value := by
  cases first <;> cases second <;> simp [Checked.apply, Checked.both, Checked.map]

theorem map_eq_valid {function : α → β} {checked : Checked α} :
    checked.map function = .valid value ↔
      ∃ argument, checked = .valid argument ∧ function argument = value := by
  cases checked <;> simp [Checked.map]

theorem under_valid {checked : Checked α} :
    checked.under step = .valid value ↔ checked = .valid value := by
  cases checked <;> simp [Checked.under]

/-- A field that is valid was absent or read as valid. -/
theorem read_field_valid {read : Value → Checked α}
    (valid : readField fields name absent read = .valid value) :
    value = absent ∨ ∃ raw, read raw = .valid value := by
  unfold readField at valid
  split at valid
  · exact .inl (by cases valid; rfl)
  · exact .inr ⟨_, under_valid.mp valid⟩

theorem field_valid {read : Value → Checked α} (found : Value.lookup name fields = some raw)
    (valid : read raw = .valid value) : readField fields name absent read = .valid value := by
  rw [readField, found]
  exact under_valid.mpr valid

/-! Sections -/

variable {τ : Type} [DecidableEq τ] [Spelling τ]

theorem section_valid : readSection raw = .valid fields ↔ raw = .map fields := by
  cases raw <;> simp [readSection, Checked.fault]

omit [DecidableEq τ] in
theorem resolver_valid {resolver : ResolverSettings τ} :
    ResolverSettings.read home raw = .valid resolver ↔ ∃ fields, raw = .map fields ∧
      readField fields "package_name" (Spelling.ofString "org.ringtone.resolver") readText =
        .valid resolver.packageName ∧
      readField fields "vibration_sound_path" ("" : Text) (ResolverSettings.readVibration home) =
        .valid resolver.vibrationSoundPath ∧
      readField fields "enforce_thread_check" true readTruth =
        .valid resolver.enforceThreadCheck := by
  rw [ResolverSettings.read, and_then_valid]
  constructor
  · rintro ⟨fields, given, read⟩
    obtain ⟨build, enforce, built, enforced, rfl⟩ := apply_valid.mp read
    obtain ⟨start, vibration, started, vibrates, rfl⟩ := apply_valid.mp built
    obtain ⟨package, named, rfl⟩ := map_eq_valid.mp started
    exact ⟨fields, section_valid.mp given, named, vibrates, enforced⟩
  · rintro ⟨fields, rfl, named, vibrates, enforced⟩
    refine ⟨fields, rfl, ?_⟩
    rw [named, vibrates, enforced]
    rfl

theorem user_valid {user : UserSettings τ} :
    UserSettings.read raw = .valid user ↔ ∃ fields, raw = .map fields ∧
      readRequired fields "id" readWhole = .valid user.id ∧
      readField fields "unlocked" true readTruth = .valid user.unlocked ∧
      readField fields "managed" false readTruth = .valid user.managed ∧
      readField fields "enabled" true readTruth = .valid user.enabled ∧
      readField fields "parent" none (readOptional readWhole) = .valid user.parent ∧
      readField fields "packages" none (readOptional (readList readText)) =
        .valid user.packages ∧
      readField fields "sounds" [] UserSettings.readSounds = .valid user.sounds := by
  rw [UserSettings.read, and_then_valid]
  constructor
  · rintro ⟨fields, given, read⟩
    obtain ⟨_, sounds, read₆, sounding, rfl⟩ := apply_valid.mp read
    obtain ⟨_, packages, read₅, packed, rfl⟩ := apply_valid.mp read₆
    obtain ⟨_, parent, read₄, parented, rfl⟩ := apply_valid.mp read₅
    obtain ⟨_, enabled, read₃, enables, rfl⟩ := apply_valid.mp read₄
    obtain ⟨_, managed, read₂, manages, rfl⟩ := apply_valid.mp read₃
    obtain ⟨_, unlocked, read₁, unlocks, rfl⟩ := apply_valid.mp read₂
    obtain ⟨id, known, rfl⟩ := map_eq_valid.mp read₁
    exact ⟨fields, section_valid.mp given, known, unlocks, manages, enables, parented, packed,
      sounding⟩
  · rintro ⟨fields, rfl, known, unlocks, manages, enables, parented, packed, sounding⟩
    refine ⟨fields, rfl, ?_⟩
    rw [known, unlocks, manages, enables, parented, packed, sounding]
    rfl

omit [DecidableEq τ] [Spelling τ] in
theorem users_checked {device checked : DeviceSettings τ} :
    DeviceSettings.checkUsers device = .valid checked ↔
      device = checked ∧ checked.inconsistency? = none := by
  unfold DeviceSettings.checkUsers
  cases found : device.inconsistency? with
  | none =>
    constructor
    · rintro ⟨⟩
      exact ⟨rfl, found⟩
    · rintro ⟨rfl, -⟩
      rfl
  | some fault =>
    refine iff_of_false nofun ?_
    rintro ⟨rfl, consistent⟩
    rw [found] at consistent
    cases consistent

theorem device_valid {device : DeviceSettings τ} :
    DeviceSettings.read home raw = .valid device ↔ ∃ fields, raw = .map fields ∧
      readField fields "current_user" 0 readWhole = .valid device.currentUser ∧
      readField fields "ringtone_cache" none (DeviceSettings.readCache home) =
        .valid device.ringtoneCache ∧
      readField fields "media" [] (DeviceSettings.readMedia home) = .valid device.media ∧
      readField fields "users" ({} : DeviceSettings τ).users (readList UserSettings.read) =
        .valid device.users ∧
      device.inconsistency? = none := by
  rw [DeviceSettings.read, and_then_valid]
  constructor
  · rintro ⟨fields, given, read⟩
    obtain ⟨_, read₄, checked⟩ := and_then_valid.mp read
    obtain ⟨rfl, consistent⟩ := users_checked.mp checked
    obtain ⟨_, users, read₃, peopled, rfl⟩ := apply_valid.mp read₄
    obtain ⟨_, media, read₂, stocked, rfl⟩ := apply_valid.mp read₃
    obtain ⟨_, cache, read₁, cached, rfl⟩ := apply_valid.mp read₂
    obtain ⟨current, chosen, rfl⟩ := map_eq_valid.mp read₁
    exact ⟨fields, section_valid.mp given, chosen, cached, stocked, peopled, consistent⟩
  · rintro ⟨fields, rfl, chosen, cached, stocked, peopled, consistent⟩
    refine ⟨fields, rfl, and_then_valid.mpr ⟨device, ?_, users_checked.mpr ⟨rfl, consistent⟩⟩⟩
    rw [chosen, cached, stocked, peopled]
    rfl

theorem playback_valid {playback : PlaybackSettings} :
    PlaybackSettings.read raw = .valid playback ↔ ∃ fields, raw = .map fields ∧
      readField fields "ramp_ms" none PlaybackSettings.readRamp = .valid playback.rampMs := by
  rw [PlaybackSettings.read, and_then_valid]
  constructor
  · rintro ⟨fields, given, read⟩
    obtain ⟨ramp, risen, rfl⟩ := map_eq_valid.mp read
    exact ⟨fields, section_valid.mp given, risen⟩
  · rintro ⟨fields, rfl, risen⟩
    exact ⟨fields, rfl, map_eq_valid.mpr ⟨playback.rampMs, risen, rfl⟩⟩

/-- A time for the volume to rise is accepted only when it is positive. -/
theorem ramp_positive (valid : PlaybackSettings.readRamp raw = .valid ramp) :
    ∀ ms ∈ ramp, 0 < ms := by
  obtain ⟨unchecked, -, checked⟩ := and_then_valid.mp valid
  intro ms given
  rw [Option.mem_def.mp given] at checked
  split at checked
  next => cases checked
  next late =>
    split at checked
    next => cases checked
    next positive =>
      cases checked
      exact Int.not_le.mp positive

theorem settings_valid {settings : Settings τ} :
    Settings.read home raw = .valid settings ↔ ∃ fields, raw = .map fields ∧
      readField fields "resolver" ({} : ResolverSettings τ) (ResolverSettings.read home) =
        .valid settings.resolver ∧
      readField fields "device" {} (DeviceSettings.read home) = .valid settings.device ∧
      readField fields "playback" {} PlaybackSettings.read = .valid settings.playback := by
  rw [Settings.read, and_then_valid]
  constructor
  · rintro ⟨fields, given, read⟩
    obtain ⟨_, playback, read₂, played, rfl⟩ := apply_valid.mp read
    obtain ⟨_, device, read₁, wired, rfl⟩ := apply_valid.mp read₂
    obtain ⟨resolver, resolved, rfl⟩ := map_eq_valid.mp read₁
    exact ⟨fields, section_valid.mp given, resolved, wired, played⟩
  · rintro ⟨fields, rfl, resolved, wired, played⟩
    refine ⟨fields, rfl, ?_⟩
    rw [resolved, wired, played]
    rfl

/-- In valid settings a time for the volume to rise is positive. -/
theorem validated_ramp {settings : Settings τ} (valid : Settings.read home raw = .valid settings) :
    ∀ ms ∈ settings.playback.rampMs, 0 < ms := by
  obtain ⟨fields, -, -, -, played⟩ := settings_valid.mp valid
  rcases read_field_valid played with absent | ⟨raw, read⟩
  · rw [absent]
    nofun
  · obtain ⟨fields, -, risen⟩ := playback_valid.mp read
    rcases read_field_valid risen with absent | ⟨raw, read⟩
    · rw [absent]
      nofun
    · exact ramp_positive read

end CallTone.ValidSections
