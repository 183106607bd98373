import CallTone.Proofs.SoundPlaces
import CallTone.Proofs.VerbatimReferences

/-! The systemwide alias beside the sound that it stands for. The alias is looked
up by the device, which takes a reference to a local file as it is written; the
sound itself is read by the engine, which splits and unescapes it. The two lead
to the same file exactly when reading changes nothing. -/
namespace CallTone.AliasPlacement
open FileReferences SoundPlaces VerbatimReferences

/-- The setting leads to the same place through its alias as by itself. A plain
reference to a local file does when it is verbatim. Any other setting is found
among the media through its alias; what the engine makes of it has to be found
there too. -/
def SamePlace (media : Table String Path) (sound : String) : Prop :=
  if Device.localStart.isPrefixOf sound.toList then
    Verbatim (sound.toList.drop Device.localStart.length)
  else
    match Engine.target sound with
    | .ok none => True
    | .ok (some path) => media.get? sound = some path
    | .error _ => media.get? sound = none

private theorem target_of_alias (kind : SoundKind) : Engine.target kind.aliasUri = .ok none := by
  cases kind <;> rfl

/-- The alias of an unlocked user's sound is placed where the device finds the
setting. -/
theorem place_of_alias (device : Device) (context : Context) (kind : SoundKind)
    (known : device.user? context.userId = some user) (unlocked : user.unlocked = true)
    (set : user.sounds.get? kind.settingKey = some sound) (given : sound ≠ "") :
    placeOf device.locate context kind.aliasUri = device.locateSetting sound := by
  have chosen : device.actualDefault context kind = some sound := by
    simp only [Device.actualDefault, Device.stringFor, known, set, Option.getD_some, given,
      ↓reduceIte]
  have open_now : device.isUnlocked context.userId = true := by
    simp only [Device.isUnlocked, known, unlocked]
  rw [placeOf, target_of_alias]
  simp only [Device.locate, SoundKind.ofAlias?_aliasUri, open_now, ↓reduceIte, chosen,
    Option.bind_some]

/-- The place of a sound that is no alias, by itself. -/
theorem place_of_sound (device : Device) (context : Context)
    (plain : SoundKind.ofAlias? sound = none) :
    placeOf device.locate context sound =
      match Engine.target sound with
      | .ok none => device.settings.media.get? sound
      | .ok (some path) => some path
      | .error _ => none := by
  rw [placeOf]
  cases Engine.target sound with
  | error failure => rfl
  | ok named =>
    cases named with
    | none => simp only [Device.locate, plain]
    | some path => rfl

/-- The two places of a setting are one exactly when it leads to the same place. -/
theorem places_agree_iff (device : Device) (context : Context)
    (plain : SoundKind.ofAlias? sound = none) :
    device.locateSetting sound = placeOf device.locate context sound ↔
      SamePlace device.settings.media sound := by
  rw [place_of_sound device context plain, Device.locateSetting, plain, SamePlace]
  simp only [Option.isSome_none, Bool.false_eq_true, ↓reduceIte]
  by_cases starts : Device.localStart.isPrefixOf sound.toList = true
  · obtain ⟨rest, written⟩ := List.isPrefixOf_iff_prefix.mp starts
    have dropped : sound.toList.drop Device.localStart.length = rest := by
      rw [← written, List.drop_left]
    rw [if_pos starts, if_pos starts, dropped, ← verbatim_iff written.symm]
    cases named : Engine.target sound with
    | error failure => simp
    | ok target =>
      cases target with
      | none => exact absurd named (file_reference_not_looked_up written.symm)
      | some path => simp [eq_comm]
  · rw [if_neg starts, if_neg starts]
    cases Engine.target sound with
    | error failure => rfl
    | ok target => cases target <;> simp

/-- The alias of an unlocked user's sound and the sound itself play the same
files, whatever the files are, exactly when the setting leads to the same place
through its alias as by itself. -/
theorem alias_plays_sound_iff (device : Device) (context : Context) (kind : SoundKind)
    (user : UserSettings) (sound : String) (shaper : Option VolumeShaper)
    (attributes : AudioAttributes) (known : device.user? context.userId = some user)
    (unlocked : user.unlocked = true) (set : user.sounds.get? kind.settingKey = some sound)
    (given : sound ≠ "") (plain : SoundKind.ofAlias? sound = none) :
    (∀ files path,
      LoadsAt (Engine.load files device.locate context kind.aliasUri shaper attributes) path ↔
        LoadsAt (Engine.load files device.locate context sound shaper attributes) path) ↔
      SamePlace device.settings.media sound := by
  have aliased := place_of_alias device context kind known unlocked set given
  rw [← places_agree_iff device context plain]
  simp only [loads_at_iff, aliased]
  constructor
  · intro same
    refine Option.ext fun path => ?_
    -- A file that opens at the path, and nothing else, tells whether the path is the place.
    have opens : Opens [(path.toString, .noInfo)] path := .inl (by simp [Table.get?])
    have both := same [(path.toString, .noInfo)] path
    simpa only [opens, and_true] using both
  · intro same files path
    rw [same]

/-- A device whose only user has one sound set as ringtone. -/
def oneSound (media : Table String Path) (sound : String) : Device :=
  Device.wire
    { media := media, users := [⟨0, true, false, true, none, none, [("ringtone", sound)]⟩] }
    "org.ringtone.resolver"

theorem capital_scheme_among_media :
    let device := oneSound [("FILE:///ring.ogg", ⟨.one, ["ring.ogg"]⟩)] "FILE:///ring.ogg"
    let context : Context := ⟨"org.ringtone.resolver", ⟨0⟩⟩
    (∃ user, device.user? context.userId = some user ∧ user.unlocked = true ∧
      user.sounds.get? SoundKind.ringtone.settingKey = some "FILE:///ring.ogg") ∧
    SoundKind.ofAlias? "FILE:///ring.ogg" = none ∧
    SamePlace device.settings.media "FILE:///ring.ogg" ∧
    ∀ files path,
      LoadsAt (Engine.load files device.locate context SoundKind.ringtone.aliasUri none
          (AudioAttributes.ringtone false)) path ↔
        LoadsAt (Engine.load files device.locate context "FILE:///ring.ogg" none
          (AudioAttributes.ringtone false)) path := by
  have named : Engine.target "FILE:///ring.ogg" = .ok (some ⟨.one, ["ring.ogg"]⟩) := by decide
  have same : SamePlace [("FILE:///ring.ogg", ⟨.one, ["ring.ogg"]⟩)] "FILE:///ring.ogg" := by
    rw [SamePlace, if_neg (by decide), named]
    rfl
  exact ⟨⟨_, rfl, rfl, rfl⟩, by decide, same,
    (alias_plays_sound_iff (oneSound _ "FILE:///ring.ogg") ⟨"org.ringtone.resolver", ⟨0⟩⟩ .ringtone
      _ "FILE:///ring.ogg" none (AudioAttributes.ringtone false) rfl rfl rfl (by decide)
      (by decide)).mpr same⟩

/-- An escape in the setting leads the alias astray: the sound plays, while the
alias looks for a file with the escape in its name. -/
theorem alias_misses_escaped_sound :
    ¬ ∀ (device : Device) (context : Context) (kind : SoundKind) (user : UserSettings)
        (sound : String) (files : Files) (path : Path),
      device.user? context.userId = some user → user.unlocked = true →
      user.sounds.get? kind.settingKey = some sound → sound ≠ "" →
      SoundKind.ofAlias? sound = none →
      (LoadsAt (Engine.load files device.locate context kind.aliasUri none
          (AudioAttributes.ringtone false)) path ↔
        LoadsAt (Engine.load files device.locate context sound none
          (AudioAttributes.ringtone false)) path) := by
  intro same
  have both := same (oneSound [] "file:///a%20b.ogg") ⟨"org.ringtone.resolver", ⟨0⟩⟩ .ringtone _
    "file:///a%20b.ogg" [("/a b.ogg", .noInfo)] ⟨.one, ["a b.ogg"]⟩ rfl rfl rfl (by decide)
    (by decide)
  simp only [loads_at_iff] at both
  have placed : placeOf (oneSound [] "file:///a%20b.ogg").locate ⟨"org.ringtone.resolver", ⟨0⟩⟩
      "file:///a%20b.ogg" = some ⟨.one, ["a b.ogg"]⟩ := by decide
  have astray : placeOf (oneSound [] "file:///a%20b.ogg").locate ⟨"org.ringtone.resolver", ⟨0⟩⟩
      SoundKind.ringtone.aliasUri ≠ some ⟨.one, ["a b.ogg"]⟩ := by decide
  exact astray (both.mpr ⟨placed, .inl (by decide)⟩).1

end CallTone.AliasPlacement
