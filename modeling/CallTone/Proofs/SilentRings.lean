import CallTone.Proofs.GuardedSessions
import CallTone.Proofs.SelectionProvenance
import CallTone.Proofs.VibrationSound

/-! A silent ring is never heard. Its sound is loaded once, and a handle leaves the
operation only as what setting the loaded one to no volume left, as the last thing
that is done. So whatever the parts answer, there is no way on which a loaded handle
gets out as it was: where the volume cannot be set, nothing is returned. -/
namespace CallTone.SilentRings
open Dialogue DialogueRuns ResolverRuns BoundaryFailures GuardedSessions SelectionProvenance
open VibrationSound

/-! Volumes that handles store -/

/-- Handles that store the level which they are set to, silence as it is. -/
structure Levels (Handle : Type) where
  volume : Handle → Binary64
  store : Handle → Binary64 → Handle
  silence_kept : ∀ handle, volume (store handle Binary64.zero) = Binary64.zero

/-- Whenever the parts set a handle to a level, the handle stores it. They need not
manage to. -/
def Levels.StoredBy (levels : Levels Handle) (parts : Collaborators Handle σ) : Prop :=
  ∀ state handle level changed, (parts state (.setVolume handle level)).reply = .ok changed →
    changed = levels.store handle level

/-- A loaded sound stores its level brought between 0 and 1. -/
def loadedLevels : Levels LoadedRingtone where
  volume := LoadedRingtone.volume
  store := LoadedRingtone.setVolume
  silence_kept _ := rfl

/-- A scripted handle stores any level. -/
def scriptedLevels : Levels ScriptedRingtone where
  volume := ScriptedRingtone.volume
  store handle level := { handle with volume := level }
  silence_kept _ := rfl

theorem app_stores (app : App) : loadedLevels.StoredBy app.collaborators := by
  intro state handle level changed replied
  cases replied
  rfl

theorem script_stores (script : Script) : scriptedLevels.StoredBy script.collaborators := by
  intro state handle level changed replied
  unfold Script.collaborators at replied
  split at replied
  · cases replied
  · cases replied
    rfl

/-! One silent ring -/

/-- What the events show of a silent ring that comes to a handle or to none. -/
structure Inaudible (uri : String) (events : List (Event Handle)) (handle : Option Handle) :
    Prop where
  /-- The engine is asked once: for the reference, in the program's own context, with no
  volume curve and the haptics on. Without a handle from it there is none. -/
  loaded : ∃ context reply, IsBase events context ∧
    loadsOf events = [⟨context, uri, none, AudioAttributes.ringtone false, reply⟩] ∧
    (handle = none ↔ ∀ built, reply ≠ .ok (some built))
  /-- A handle is the loaded one after it was set to no volume, which was the last thing
  done. -/
  silenced : ∀ silent, handle = some silent → ∃ context built told loading setting,
    events = [.asked .baseContext (.ok context) told,
      .asked (.load context uri none (AudioAttributes.ringtone false)) (.ok (some built)) loading,
      .asked (.setVolume built Binary64.zero) (.ok silent) setting]

/-- A request that a silent ring cannot do without failed: for the program's own context,
or for another volume. -/
def Spoilt (events : List (Event Handle)) (failure : Failure) : Prop :=
  (∃ remarks, .asked .baseContext (.error failure) remarks ∈ events) ∨
    ∃ handle level remarks, .asked (.setVolume handle level) (.error failure) remarks ∈ events

theorem spoilt_crossed {events : List (Event Handle)} {failure : Failure}
    (spoilt : Spoilt events failure) : Crossed events failure := by
  rcases spoilt with ⟨remarks, member⟩ | ⟨handle, level, remarks, member⟩
  · exact ⟨_, member, rfl, trivial⟩
  · exact ⟨_, member, rfl, trivial⟩

/-- The engine failed to load a sound. -/
def LoadFailed (events : List (Event Handle)) : Prop :=
  ∃ context uri shaper attributes failure remarks,
    .asked (.load context uri shaper attributes) (.error failure) remarks ∈ events

theorem run_inaudible {events : List (Event Handle)} (ran : HapticRun uri events (.ok handle)) :
    Inaudible uri events handle := by
  generalize ended : Except.ok handle = result at ran
  cases ran with
  | contextless failure remarks => cases ended
  | unplayable context remarks built =>
    cases ended
    cases built with
    | answered _ loading =>
      refine ⟨⟨context, .ok none, ⟨remarks, List.mem_cons_self⟩, rfl, ?_⟩, nofun⟩
      exact iff_of_true rfl nofun
    | failed failure loading =>
      refine ⟨⟨context, .error failure, ⟨remarks, List.mem_cons_self⟩, rfl, ?_⟩, nofun⟩
      exact iff_of_true rfl nofun
  | loaded context remarks built reply further =>
    cases reply with
    | error failure => cases ended
    | ok silent =>
      cases ended
      cases built with
      | answered handle loading =>
        constructor
        · refine ⟨context, _, ⟨remarks, List.mem_cons_self⟩, rfl, iff_of_false nofun ?_⟩
          intro unbuilt
          exact unbuilt _ rfl
        · rintro _ ⟨⟩
          exact ⟨context, _, remarks, loading, further, rfl⟩

theorem run_unloaded {events : List (Event Handle)} (ran : HapticRun uri events result)
    (failed : LoadFailed events) : result = .ok none := by
  obtain ⟨_, _, _, _, failure, _, member⟩ := failed
  cases ran with
  | contextless other remarks => cases List.mem_singleton.mp member
  | unplayable context remarks built => rfl
  | loaded context remarks built reply further =>
    cases built with
    | answered handle loading => simp at member

/-! The operation, refused or not -/

section
variable (resolver : Resolver) (parts : Collaborators Handle σ) (state : σ) (thread : Thread)

/-- A silent ring fails with nothing asked, or its path can be encoded and it goes
through one of the runs of loading its sound. -/
theorem silent_ring_runs :
    let outcome := (resolver.getHapticOnly thread).hold parts state
    (∃ failure, outcome.result = .error failure ∧ outcome.events = []) ∨
      ∃ path, resolver.settings.vibrationSoundPath.strict = .ok path ∧
        HapticRun (Uri.ofFile path) outcome.events (outcome.result.map Selection.handle) ∧
        ∀ selection, outcome.result = .ok selection → selection.uri = Uri.ofFile path := by
  intro outcome
  cases checked : resolver.guard.check "get_haptic_only_ringtone" thread with
  | error failure =>
    have refused : outcome = ⟨.error failure, [], state⟩ :=
      guarded_refused parts state (get_haptic_only_guarded resolver thread)
        (silent_check_error_iff.mpr (.inl checked))
    exact .inl ⟨failure, by rw [refused], by rw [refused]⟩
  | ok passed =>
    rcases get_haptic_only_run checked (hold_run parts state (resolver.getHapticOnly thread)) with
      ⟨stray, -, quiet, failed⟩ | ran
    · exact .inl ⟨_, failed, quiet⟩
    · exact .inr ran

theorem silent_ring_spoilt {failure : Failure}
    (spoilt : Spoilt ((resolver.getHapticOnly thread).hold parts state).events failure) :
    ((resolver.getHapticOnly thread).hold parts state).result = .error failure :=
  (guarded_run parts (get_haptic_only_guarded resolver thread) state failure).mpr
    (.inr (spoilt_crossed spoilt))

theorem silent_ring_returned
    (returned : ((resolver.getHapticOnly thread).hold parts state).result = .ok selection) :
    ∃ path, resolver.settings.vibrationSoundPath = Text.ofString path ∧
      selection.uri = Uri.ofFile path ∧
      Inaudible (Uri.ofFile path) ((resolver.getHapticOnly thread).hold parts state).events
        selection.handle := by
  rcases silent_ring_runs resolver parts state thread with
    ⟨failure, failed, -⟩ | ⟨path, written, ran, named⟩
  · rw [returned] at failed
    cases failed
  · rw [returned] at ran
    exact ⟨path, (Text.strict_eq_ok.mp written).symm, named selection returned, run_inaudible ran⟩

theorem silent_ring_unloaded
    (failed : LoadFailed ((resolver.getHapticOnly thread).hold parts state).events) :
    ∃ selection, ((resolver.getHapticOnly thread).hold parts state).result = .ok selection ∧
      selection.handle = none := by
  rcases silent_ring_runs resolver parts state thread with
    ⟨failure, -, quiet⟩ | ⟨path, -, ran, -⟩
  · rw [quiet] at failed
    obtain ⟨_, _, _, _, _, _, member⟩ := failed
    cases member
  · have unloaded := run_unloaded ran failed
    cases result : ((resolver.getHapticOnly thread).hold parts state).result with
    | error failure =>
      rw [result] at unloaded
      cases unloaded
    | ok selection =>
      rw [result] at unloaded
      exact ⟨selection, rfl, Except.ok.inj unloaded⟩

/-- Where handles store their level, the handle of a silent ring has stored silence. -/
theorem silent_ring_volume {levels : Levels Handle} (stored : levels.StoredBy parts)
    (returned : ((resolver.getHapticOnly thread).hold parts state).result = .ok selection)
    (played : selection.handle = some silent) : levels.volume silent = Binary64.zero := by
  obtain ⟨path, -, -, inaudible⟩ := silent_ring_returned resolver parts state thread returned
  obtain ⟨context, built, told, loading, setting, events⟩ := inaudible.silenced silent played
  have set : .asked (.setVolume built Binary64.zero) (.ok silent) setting ∈
      ((resolver.getHapticOnly thread).hold parts state).events := by
    rw [events]
    simp
  obtain ⟨moment, replied⟩ := held_reply parts state _ set
  rw [stored moment built Binary64.zero silent replied]
  exact levels.silence_kept built

end

/-! Silent rings in a session -/

/-- The settings that a resolver has after the moves: the last ones that it was given. -/
def settingsAfter (settings : ResolverSettings) : List (Move Handle σ) → ResolverSettings
  | [] => settings
  | .settings next :: rest => settingsAfter next rest
  | _ :: rest => settingsAfter settings rest

theorem settings_after (start : Session Handle σ) (moves : List (Move Handle σ)) :
    (moves.foldl Session.step start).resolver.settings =
      settingsAfter start.resolver.settings moves := by
  induction moves generalizing start with
  | nil => rfl
  | cons move rest ih =>
    rw [List.foldl_cons, ih]
    cases move <;> rfl

/-- Wherever a silent ring comes in a session, whatever the parts answer: if it returns,
the path of the vibration sound of the settings then is a string, the reference of that
path is returned, and the handle has been silenced after it was loaded; one that stores
its level, as loaded sounds and scripted handles do, is at no volume. If the context or
the volume cannot be had, nothing is returned; if the engine fails, there is no handle. -/
theorem silent_rings_inaudible (start : Session Handle σ) (moves : List (Move Handle σ))
    (thread : Thread) :
    let now := moves.foldl Session.step start
    let vibration := (settingsAfter start.resolver.settings moves).vibrationSoundPath
    let outcome := (now.resolver.getHapticOnly thread).hold now.parts now.state
    (∀ selection, outcome.result = .ok selection →
      ∃ path : String, vibration = path ∧ selection.uri = Uri.ofFile path ∧
        Inaudible (Uri.ofFile path) outcome.events selection.handle ∧
        ∀ levels : Levels Handle, levels.StoredBy now.parts →
          ∀ handle, selection.handle = some handle → levels.volume handle = Binary64.zero) ∧
    (∀ failure, Spoilt outcome.events failure → outcome.result = .error failure) ∧
    (LoadFailed outcome.events →
      ∃ selection, outcome.result = .ok selection ∧ selection.handle = none) ∧
    (∀ app : App, loadedLevels.StoredBy app.collaborators) ∧
    ∀ script : Script, scriptedLevels.StoredBy script.collaborators := by
  intro now vibration outcome
  have current : now.resolver.settings = settingsAfter start.resolver.settings moves :=
    settings_after start moves
  refine ⟨?_, ?_, ?_, app_stores, script_stores⟩
  · intro selection returned
    obtain ⟨path, written, named, silent⟩ :=
      silent_ring_returned now.resolver now.parts now.state thread returned
    rw [current] at written
    refine ⟨path, written, named, silent, fun levels stored handle played => ?_⟩
    exact silent_ring_volume now.resolver now.parts now.state thread stored returned played
  · intro failure spoilt
    exact silent_ring_spoilt now.resolver now.parts now.state thread spoilt
  · intro failed
    exact silent_ring_unloaded now.resolver now.parts now.state thread failed

theorem app_silent_ring (app : App) (thread : Thread) :
    (app.getHapticOnly thread).result =
      ((app.resolver.getHapticOnly thread).hold app.collaborators ()).result := rfl

/-- An application with a vibration sound and a file for it. -/
def vibrating (path : String) : App :=
  App.wire { resolver := { vibrationSoundPath := path } } none [(path, .noInfo)]

/-- A silent ring on the main thread, which is refused; then another vibration sound, and
the parts that have its file. -/
def anotherVibration : List (Move LoadedRingtone Unit) :=
  [.call Thread.main .silent, .settings (vibrating "/new.ogg").settings.resolver,
    .parts (vibrating "/new.ogg").collaborators ()]

/-- The new vibration sound is loaded, and it is silent. -/
theorem new_vibration_silent :
    let start : Session LoadedRingtone Unit :=
      ⟨(vibrating "/old.ogg").resolver, (vibrating "/old.ogg").collaborators, ()⟩
    let app := vibrating "/new.ogg"
    anotherVibration.foldl Session.step start = ⟨app.resolver, app.collaborators, ()⟩ ∧
      ∃ selection handle, (app.getHapticOnly App.worker).result = .ok selection ∧
        selection.uri = Uri.ofFile "/new.ogg" ∧ selection.handle = some handle ∧
        handle.volume = Binary64.zero := by
  intro start app
  have current : anotherVibration.foldl Session.step start =
      ⟨app.resolver, app.collaborators, ()⟩ := rfl
  have passed : app.guard.check "get_haptic_only_ringtone" App.worker = .ok () := by decide
  obtain ⟨selection, returned, -, opened⟩ := haptic_only_opens rfl (by decide) passed
  have played : selection.handle.isSome := by
    rw [opened]
    decide
  obtain ⟨handle, played⟩ := Option.isSome_iff_exists.mp played
  have inaudible := silent_rings_inaudible start anotherVibration App.worker
  dsimp only at inaudible
  rw [current, ← app_silent_ring] at inaudible
  obtain ⟨path, written, named, -, silent⟩ := inaudible.1 selection returned
  obtain rfl : "/new.ogg" = path := Text.ofString_inj.mp written
  exact ⟨current, selection, handle, returned, named, played,
    silent loadedLevels (app_stores app) handle played⟩

end CallTone.SilentRings
