import CallTone.App.Edit
import CallTone.Description
import CallTone.Proofs.AppAnswers
import CallTone.Proofs.BoundaryFailures
import CallTone.Proofs.RegisteredUsers

/-! When the resolve and haptic commands have an answer. Device and engine fail
only requests whose failures are absorbed, the worker thread of a command is never
the guarded one, and a volume curve can be made of every positive duration. Neither
ids nor the current user matter for that, so edits may change them freely. What is
left is the path of the vibration sound, which the haptic command has to encode. -/
namespace CallTone.CommandAnswers
open AppAnswers BoundaryFailures Dialogue RegisteredUsers ValidatedUsers

/-! The volume curve -/

/-- Where the volume is to rise, it is for a positive time. -/
def Rising (playback : PlaybackSettings) : Prop :=
  ∀ ms, playback.rampMs = some ms → 0 < ms

/-- The edit sets no time for the volume to rise but a positive one. -/
def KeepsRising : App.Edit → Prop
  | .ramp value => Rising ⟨value⟩
  | _ => True

/-- The time of validated settings is positive. -/
theorem validated_rising (valid : Settings.read homes raw = .valid settings) :
    Rising settings.playback :=
  ValidSections.validated_ramp valid

theorem edits_rising (rising : Rising app.settings.playback) (edits : List App.Edit)
    (keeps : ∀ edit ∈ edits, KeepsRising edit) :
    Rising (edits.foldl App.edit app).settings.playback := by
  induction edits generalizing app with
  | nil => exact rising
  | cons edit rest ih =>
    refine ih ?_ fun later member => keeps later (List.mem_cons_of_mem edit member)
    cases edit with
    | ramp value => exact keeps (.ramp value) List.mem_cons_self
    | device edit => exact rising
    | resolver edit => exact rising
    | file path entry => exact rising

/-- The curve of a positive duration passes its checks. -/
theorem ramp_made {ms : Int} (positive : 0 < ms) : ∃ shaper, VolumeShaper.ramp ms = .ok shaper := by
  refine ⟨⟨ms, [Binary64.zero, Binary64.one], [Binary64.zero, Binary64.one]⟩, ?_⟩
  unfold VolumeShaper.ramp VolumeShaper.make
  rw [if_neg (Int.not_le.mpr positive)]
  rfl

theorem shaper_given {app : App} (rising : Rising app.settings.playback) :
    ∃ shaper, app.volumeShaper = .ok shaper := by
  unfold App.volumeShaper PlaybackSettings.volumeShaper
  cases given : app.settings.playback.rampMs with
  | none => exact ⟨none, rfl⟩
  | some ms =>
    obtain ⟨shaper, made⟩ := ramp_made (rising ms given)
    refine ⟨some shaper, ?_⟩
    dsimp only
    rw [made]
    rfl

/-! Requests -/

/-- Parts that never fail with what is handed on. -/
def Reliable (parts : Collaborators Handle σ) : Prop :=
  ∀ state request failure, (parts state request).reply = .error failure → ¬ HandsOn request failure

/-- Nothing is handed on in the course of a dialogue with reliable parts. -/
theorem reliable_uncrossed {parts : Collaborators Handle σ} (reliable : Reliable parts)
    (dialogue : Dialogue Handle α) (state : σ) (failure : Failure) :
    ¬ Crossed (dialogue.hold parts state).events failure := by
  rintro ⟨event, member, failed⟩
  induction dialogue generalizing state with
  | finish result => cases member
  | note notice rest ih =>
    rcases List.mem_cons.mp member with rfl | later
    · exact failed
    · exact ih state later
  | ask request next ih =>
    rcases List.mem_cons.mp member with rfl | later
    · cases answered : (parts state request).reply with
      | ok value =>
        rw [answered] at failed
        exact failed
      | error actual =>
        rw [answered] at failed
        obtain ⟨rfl, through⟩ := failed
        exact reliable state request actual answered through
    · exact ih _ _ later

/-- Device and engine fail only requests whose failures are absorbed: a context for
which the package is missing, the profiles of an unknown user, a sound. -/
theorem app_reliable (app : App) : Reliable app.collaborators := by
  intro state request failure failed
  cases request with
  | scopedContext package flags user =>
    rcases scoped_context_cases app.device package user with found | ⟨message, missing⟩
    · cases found.symm.trans failed
    · cases missing.symm.trans failed
      exact fun other => other rfl
  | enabledProfiles userId => exact fun handedOn => handedOn
  | load context uri shaper attributes => exact fun handedOn => handedOn
  | baseContext => cases failed
  | isUnlocked userId => cases failed
  | stringFor context key userId => cases failed
  | actualDefault context kind => cases failed
  | systemDefault kind => cases failed
  | setVolume handle level => cases failed
  | currentUser => cases failed

/-- An operation fails only with the failure of its check. -/
theorem held_error_iff (app : App) {dialogue : Dialogue LoadedRingtone α}
    (guarded : Guarded check dialogue) (failure : Failure) :
    (app.hold dialogue).result = .error failure ↔ check = .error failure := by
  have uncrossed := reliable_uncrossed (app_reliable app) dialogue () failure
  exact (guarded_run app.collaborators guarded () failure).trans (or_iff_left uncrossed)

/-- An operation that its check lets start has a value. -/
theorem admitted_value (app : App) {dialogue : Dialogue LoadedRingtone α}
    (guarded : Guarded check dialogue) (passed : check = .ok ()) :
    ∃ value, (app.hold dialogue).result = .ok value := by
  cases ended : (app.hold dialogue).result with
  | ok value => exact ⟨value, rfl⟩
  | error failure => cases passed.symm.trans ((held_error_iff app guarded failure).mp ended)

/-! The worker thread -/

/-- A guard that was made before the command: the thread that it guards is not the
worker, which is started for the command. -/
def MadeBefore (guard : Guard) : Prop :=
  ∀ thread, guard.dispatch = some thread → thread.serial ≠ App.worker.serial

/-- No guard that was made before rejects the worker. -/
theorem worker_passes {guard : Guard} (before : MadeBefore guard) (operation : String) :
    guard.check operation App.worker = .ok () := by
  have elsewhere : guard.isDispatch App.worker = false := by
    unfold Guard.isDispatch Guard.dispatchThread
    cases own : guard.dispatch with
    | none => rfl
    | some thread => exact beq_eq_false_iff_ne.mpr (before thread own).symm
  unfold Guard.check
  rw [elsewhere, Bool.and_false]
  rfl

theorem wired_made_before {guard : Option Guard}
    (before : ∀ own, guard = some own → MadeBefore own) (settings : Settings) (files : Files) :
    MadeBefore (App.wire settings guard files).guard := by
  cases guard with
  | none => exact fun thread none_own => nomatch none_own
  | some own => exact before own rfl

/-! Commands -/

theorem resolve_text_given {app : App} (rising : Rising app.settings.playback)
    (before : MadeBefore app.guard) (ringtone : Option String) (caller : Option CallerClass)
    (user : Option Int) (muted json : Bool) :
    ∃ text, (app.resolveText ringtone (caller.map CallerClass.word) user muted json).result =
      .ok text := by
  have described : IncomingCall.describe ringtone (caller.map CallerClass.word) user =
      .ok ⟨ringtone, caller, user.map UserHandle.mk⟩ := by
    rcases caller with _ | (_ | _ | _) <;> rfl
  obtain ⟨shaper, given⟩ := shaper_given rising
  obtain ⟨selection, found⟩ := admitted_value app
    (get_ringtone_guarded app.resolver App.worker
      (app.withUser ⟨ringtone, caller, user.map UserHandle.mk⟩) shaper muted)
    (worker_passes before "get_ringtone")
  refine ⟨(Description.ofSelection LoadedRingtone.view selection).render json, ?_⟩
  unfold App.resolveText App.getRingtone
  rw [described]
  dsimp only
  rw [given]
  dsimp only [App.Answer.map]
  rw [found]
  rfl

/-- The haptic command fails exactly when its path cannot be encoded. -/
theorem haptic_text_fails {app : App} (before : MadeBefore app.guard) (json : Bool)
    (failure : Failure) :
    (app.hapticText json).result = .error failure ↔
      Unencodable app.settings.resolver.vibrationSoundPath failure := by
  have admitted := worker_passes before "get_haptic_only_ringtone"
  have checked : silentCheck app.resolver App.worker = .error failure ↔
      Unencodable app.settings.resolver.vibrationSoundPath failure := by
    rw [silent_check_error_iff, show app.resolver.guard = app.guard from rfl, admitted]
    simp [App.resolver]
  rw [← checked, ← held_error_iff app (get_haptic_only_guarded app.resolver App.worker) failure]
  unfold App.hapticText App.getHapticOnly App.Answer.map
  cases (app.hold (app.resolver.getHapticOnly App.worker)).result <;> simp [Except.map]

theorem haptic_text_given {app : App} (before : MadeBefore app.guard) (json : Bool) :
    (∃ text, (app.hapticText json).result = .ok text) ↔
      app.settings.resolver.vibrationSoundPath.isString = true := by
  have fails := haptic_text_fails before json
  rw [Text.isString_iff]
  cases written : app.settings.resolver.vibrationSoundPath.strict with
  | error stray =>
    have failed := (fails _).mpr ⟨stray, written, rfl⟩
    simp [failed]
  | ok path =>
    cases given : (app.hapticText json).result with
    | ok text => simp
    | error failure =>
      obtain ⟨stray, unwritten, -⟩ := (fails failure).mp given
      cases written.symm.trans unwritten

/-- An application that is wired from validated settings with any guard made before,
and then edited in any way that sets no time for the volume to rise but a positive
one, answers every resolve command with a text. It answers a haptic command with one
exactly when the path of its vibration sound can be encoded, and fails for nothing
else. Its guard lets the worker thread of a command start every operation. -/
theorem commands_answer (valid : Settings.read homes raw = .valid settings) (guard : Option Guard)
    (before : ∀ own, guard = some own → MadeBefore own) (files : Files) (edits : List App.Edit)
    (keeps : ∀ edit ∈ edits, KeepsRising edit) :
    let app := edits.foldl App.edit (App.wire settings guard files)
    (∀ ringtone (caller : Option CallerClass) user muted json, ∃ text,
      (app.resolveText ringtone (caller.map CallerClass.word) user muted json).result =
        .ok text) ∧
    (∀ json, (∃ text, (app.hapticText json).result = .ok text) ↔
      app.settings.resolver.vibrationSoundPath.isString = true) ∧
    (∀ json failure, (app.hapticText json).result = .error failure ↔
      Unencodable app.settings.resolver.vibrationSoundPath failure) ∧
    ∀ operation, app.guard.check operation App.worker = .ok () := by
  intro app
  have rising : Rising app.settings.playback := edits_rising (validated_rising valid) edits keeps
  have early : MadeBefore app.guard := by
    rw [edits_guard]
    exact wired_made_before before settings files
  exact ⟨resolve_text_given rising early, haptic_text_given early, haptic_text_fails early,
    worker_passes early⟩

/-- The session goes over to a user who is not configured, and the silent sound is at
a file whose reading fails in a way of its own. -/
def unsettle : List App.Edit :=
  [.device (.currentUser 7), .ramp (some 20), .resolver (.vibrationSoundPath "/vib.ogg"),
    .file "/vib.ogg" (some (.unreadable ⟨.runtime, "decoder"⟩))]

theorem unsettled_commands_answer :
    let raw : Value := .map [(.str "playback", .map [(.str "ramp_ms", .int 1500)])]
    let guard : Guard := ⟨true, some ⟨7, "dispatch"⟩⟩
    ∃ settings, Settings.read "/home/tester" raw = .valid settings ∧ MadeBefore guard ∧
      (∀ edit ∈ unsettle, KeepsRising edit) ∧
      let app := unsettle.foldl App.edit (App.wire settings (some guard) [])
      (∃ text, (app.resolveText (some "file://[") (some "work") none false true).result =
        .ok text) ∧
      (∃ text, (app.hapticText false).result = .ok text) ∧
      app.guard.check "get_ringtone" App.worker = .ok () := by
  intro raw guard
  have valid : Settings.read "/home/tester" raw = .valid { playback := ⟨some 1500⟩ } := rfl
  have before : MadeBefore guard := by
    rintro thread ⟨⟩
    decide
  have keeps : ∀ edit ∈ unsettle, KeepsRising edit := by simp [unsettle, KeepsRising, Rising]
  obtain ⟨resolved, silent, -, passes⟩ := commands_answer valid (some guard)
    (fun own same => Option.some.inj same ▸ before) [] unsettle keeps
  exact ⟨_, valid, before, keeps, resolved (some "file://[") (some .work) none false true,
    (silent false).mpr rfl, passes "get_ringtone"⟩

/-- The path of a vibration sound with half of a surrogate pair in its name. -/
def strayPath : Text := ⟨"/vib".toList.map .char ++ .half 0x4FF :: ".ogg".toList.map .char⟩

/-- A document may give such a path, and the settings are valid. The haptic command fails
for it, though every sound that cannot be loaded is told as not playable. -/
theorem stray_vibration_unanswered :
    ¬ ∀ (homes : Path.Homes) (raw : Value) (settings : Settings),
      Settings.read homes raw = .valid settings →
      ∃ text, ((App.wire settings none []).hapticText false).result = .ok text := by
  intro answered
  have valid : Settings.read "/home/tester" (.map [(.str "resolver",
      .map [(.str "vibration_sound_path", .str strayPath)])]) =
        .valid { resolver := { vibrationSoundPath := strayPath } } := rfl
  obtain ⟨text, given⟩ := answered _ _ _ valid
  cases given

end CallTone.CommandAnswers
