import CallTone.Proofs.AppAnswers
import CallTone.Proofs.FileReferences
import CallTone.Proofs.SoundPlaces
import CallTone.Report

/-! The vibration sound. Its path is written as a `file` reference and read back
by the engine as the same path, whatever characters it has, so that a silent
ring and the report open the file at the configured path and no other. -/
namespace CallTone.VibrationSound
open AppAnswers FileReferences SoundPlaces

/-- The handle of a silent ring: that of the file at the path, at no volume. -/
def silentHandle (files : Files) (path : String) : Option LoadedRingtone :=
  (handleAt files (Uri.ofFile path) none (AudioAttributes.ringtone false)
    (Path.ofString path)).map fun ringtone => { ringtone with volume := Binary64.zero }

/-- The line of the report when the file at a path is tried. -/
def openedLine (files : Files) (path : String) : Except Failure Report.Line :=
  match Engine.openFile files (Uri.ofFile path) (Path.ofString path) with
  | .ok _ => .ok ⟨"Vibration sound", .passed, some (Path.ofString path).toString⟩
  | .error failure =>
    if failure.kind.isRingtoneKind then
      .ok ⟨"Vibration sound", .error, some failure.message⟩
    else .error failure

theorem load_at_path (given : path ≠ "") (files : Files) (locator : Engine.Locator)
    (context : Context) (shaper : Option VolumeShaper) (attributes : AudioAttributes) :
    Engine.load files locator context (Uri.ofFile path) shaper attributes =
      Engine.loadAt files (Uri.ofFile path) (Path.ofString path) shaper attributes [] := by
  rw [Engine.load, target_of_path given]

private theorem no_volume (ringtone : LoadedRingtone) :
    ringtone.setVolume Binary64.zero = { ringtone with volume := Binary64.zero } := by
  have silent : LoadedRingtone.clamp Binary64.zero = Binary64.zero := by decide
  rw [LoadedRingtone.setVolume, silent]

/-- Loading the sound of a path for a silent ring. -/
theorem haptic_selection_handle (app : App) (path : String) :
    ∃ selection, (app.hold (Resolver.hapticSelection path)).result = .ok selection ∧
      selection.uri = Uri.ofFile path ∧
      selection.handle = (app.load app.device.baseContext (Uri.ofFile path) none
          (AudioAttributes.ringtone false)).outcome.toOption.map
        fun ringtone => { ringtone with volume := Binary64.zero } := by
  have built := build_result app app.device.baseContext (Uri.ofFile path) none
    (AudioAttributes.ringtone false)
  unfold Resolver.hapticSelection
  rw [result_bind app (base_context_result app), result_bind app built]
  cases (app.load app.device.baseContext (Uri.ofFile path) none
    (AudioAttributes.ringtone false)).outcome.toOption with
  | none => exact ⟨_, congrArg App.Answer.result (hold_pure ..), rfl, rfl⟩
  | some handle =>
    have silenced : (app.hold (Dialogue.request (.setVolume handle Binary64.zero))).result =
        .ok { handle with volume := Binary64.zero } := by
      rw [request_result, App.reply, no_volume]
    refine ⟨⟨Uri.ofFile path, some { handle with volume := Binary64.zero },
      Resolver.ofFile_ne_empty _⟩, ?_, rfl, rfl⟩
    dsimp only
    rw [result_bind app silenced]
    exact congrArg App.Answer.result (hold_pure ..)

/-- A silent ring that the guard lets start is answered only for a path that is a
string. -/
theorem returned_path {app : App}
    (passed : app.guard.check "get_haptic_only_ringtone" thread = .ok ())
    (returned : (app.getHapticOnly thread).result = .ok selection) :
    ∃ path : String, app.settings.resolver.vibrationSoundPath = path := by
  unfold App.getHapticOnly Resolver.getHapticOnly at returned
  rw [hold_checked app passed] at returned
  cases written : app.resolver.settings.vibrationSoundPath.strict with
  | error stray =>
    rw [written] at returned
    cases returned
  | ok path => exact ⟨path, (Text.strict_eq_ok.mp written).symm⟩

section
variable {app : App} {path : String} (configured : app.settings.resolver.vibrationSoundPath = path)
include configured

/-- A silent ring has the handle that is loaded for the reference of the
configured path, at no volume. -/
theorem haptic_only_handle
    (passed : app.guard.check "get_haptic_only_ringtone" thread = .ok ()) :
    ∃ selection, (app.getHapticOnly thread).result = .ok selection ∧
      selection.uri = Uri.ofFile path ∧
      selection.handle = (app.load app.device.baseContext (Uri.ofFile path) none
          (AudioAttributes.ringtone false)).outcome.toOption.map
        fun ringtone => { ringtone with volume := Binary64.zero } := by
  have written : app.resolver.settings.vibrationSoundPath.strict = .ok path :=
    Text.strict_eq_ok.mpr configured.symm
  unfold App.getHapticOnly Resolver.getHapticOnly
  rw [hold_checked app passed, written]
  exact haptic_selection_handle app path

/-- A silent ring has the handle of the file at the configured path, at no
volume. -/
theorem haptic_only_opens (given : path ≠ "")
    (passed : app.guard.check "get_haptic_only_ringtone" thread = .ok ()) :
    ∃ selection, (app.getHapticOnly thread).result = .ok selection ∧
      selection.uri = Uri.ofFile path ∧ selection.handle = silentHandle app.files path := by
  obtain ⟨selection, result, uri, handle⟩ := haptic_only_handle configured passed
  refine ⟨selection, result, uri, ?_⟩
  rw [handle, App.load, loaded_handle, placeOf, target_of_path given]
  rfl

/-- The report tries the file at the configured path. -/
theorem vibration_line_opens (given : path ≠ "") :
    app.vibrationLine.result = openedLine app.files path := by
  have written : app.settings.resolver.vibrationSoundPath.strict = .ok path :=
    Text.strict_eq_ok.mpr configured.symm
  have loaded := (load_at_outcome app.files (Uri.ofFile path) (Path.ofString path) none
    (AudioAttributes.ringtone false) []).2
  unfold App.vibrationLine App.soundLine openedLine
  rw [written]
  dsimp only
  rw [if_neg given, App.load, load_at_path given, loaded]
  cases Engine.openFile app.files (Uri.ofFile path) (Path.ofString path) with
  | error failure =>
    dsimp only [Except.map]
    split <;> rfl
  | ok seconds => rfl

end

/-- The reference written for a path is read back as that path, for any
characters, in any context, and without asking the locator. So the silent ring
and the report open exactly the file at the configured path. -/
theorem file_reference_opens_its_path (path : String) (given : path ≠ "") :
    Engine.target (Uri.ofFile path) = .ok (some (Path.ofString path)) ∧
    (∀ files locator context shaper attributes,
      let loading := Engine.load files locator context (Uri.ofFile path) shaper attributes
      loading.asked = [] ∧
        loading = Engine.loadAt files (Uri.ofFile path) (Path.ofString path) shaper attributes []) ∧
    (∀ (app : App) (thread : Thread), app.settings.resolver.vibrationSoundPath = path →
      app.guard.check "get_haptic_only_ringtone" thread = .ok () →
      ∃ selection, (app.getHapticOnly thread).result = .ok selection ∧
        selection.uri = Uri.ofFile path ∧ selection.handle = silentHandle app.files path) ∧
    ∀ app : App, app.settings.resolver.vibrationSoundPath = path →
      app.vibrationLine.result = openedLine app.files path := by
  refine ⟨target_of_path given, fun files locator context shaper attributes => ?_, ?_, ?_⟩
  · rw [load_at_path given]
    exact ⟨(load_at_outcome ..).1, rfl⟩
  · intro app thread configured passed
    exact haptic_only_opens configured given passed
  · intro app configured
    exact vibration_line_opens configured given

/-- An application whose vibration sound has a path of reserved characters, with
a file there. -/
def reservedApp : App :=
  App.wire { resolver := { vibrationSoundPath := "//vib/ring#2 50%?é.ogg" } } none
    [("//vib/ring#2 50%?é.ogg", .noInfo)]

theorem reserved_path_opens :
    reservedApp.settings.resolver.vibrationSoundPath ≠ "" ∧
    Engine.target (Uri.ofFile "//vib/ring#2 50%?é.ogg") =
      .ok (some ⟨.two, ["vib", "ring#2 50%?é.ogg"]⟩) ∧
    reservedApp.guard.check "get_haptic_only_ringtone" App.worker = .ok () ∧
    (∃ selection, (reservedApp.getHapticOnly App.worker).result = .ok selection ∧
      selection.handle.isSome) ∧
    reservedApp.vibrationLine.result =
      .ok ⟨"Vibration sound", .passed, some "//vib/ring#2 50%?é.ogg"⟩ := by
  obtain ⟨named, -, silent, reported⟩ :=
    file_reference_opens_its_path "//vib/ring#2 50%?é.ogg" (by decide)
  obtain ⟨selection, result, -, handle⟩ := silent reservedApp App.worker rfl (by decide)
  exact ⟨by decide, named, by decide, ⟨selection, result, handle ▸ by decide⟩,
    (reported reservedApp rfl).trans (by decide)⟩

end CallTone.VibrationSound
