import CallTone.App
import CallTone.Proofs.DialogueRuns

/-! What an application answers, step by step. Device and engine keep no state
of their own, so holding a sequence of dialogues is answering one after the
other: the notices add up, and the first failure ends it. -/
namespace CallTone.AppAnswers
open Dialogue

/-- Two answers one after the other. -/
def andThen (first : App.Answer α) (next : α → App.Answer β) : App.Answer β :=
  match first.result with
  | .ok value => ⟨(next value).result, first.notices ++ (next value).notices⟩
  | .error failure => ⟨.error failure, first.notices⟩

@[simp] theorem hold_pure (app : App) (value : α) :
    app.hold (pure value) = ⟨.ok value, []⟩ := rfl

@[simp] theorem hold_tell (app : App) (notice : Notice) :
    app.hold (tell notice) = ⟨.ok (), [notice]⟩ := rfl

@[simp] theorem hold_request (app : App) (r : Request LoadedRingtone) :
    app.hold (request r) = ⟨(app.reply r).1, (app.reply r).2⟩ := by
  simp [App.hold, request, hold, App.collaborators, Outcome.notices, Event.notices]

@[simp] theorem hold_attempt (app : App) (r : Request LoadedRingtone) :
    app.hold (attempt r) = ⟨.ok (app.reply r).1, (app.reply r).2⟩ := by
  simp [App.hold, attempt, hold, App.collaborators, Outcome.notices, Event.notices]

theorem request_result (app : App) (r : Request LoadedRingtone) :
    (app.hold (request r)).result = (app.reply r).1 :=
  congrArg App.Answer.result (hold_request app r)

theorem base_context_result (app : App) :
    (app.hold (request .baseContext)).result = .ok app.device.baseContext :=
  request_result app .baseContext

theorem attempt_result (app : App) (r : Request LoadedRingtone) :
    (app.hold (attempt r)).result = .ok (app.reply r).1 :=
  congrArg App.Answer.result (hold_attempt app r)

/-- Holding one dialogue after another. -/
theorem hold_bind (app : App) (dialogue : Dialogue LoadedRingtone α)
    (next : α → Dialogue LoadedRingtone β) :
    app.hold (dialogue >>= next) =
      andThen (app.hold dialogue) fun value => app.hold (next value) := by
  unfold App.hold
  rw [DialogueRuns.hold_bind]
  cases ended : (dialogue.hold app.collaborators ()).result with
  | ok value => simp [andThen, ended, Outcome.notices]
  | error failure => simp [andThen, ended, Outcome.notices]

/-- The result of one dialogue after another that has a value. -/
theorem result_bind (app : App) {next : α → Dialogue LoadedRingtone β}
    (first : (app.hold dialogue).result = .ok value) :
    (app.hold (dialogue >>= next)).result = (app.hold (next value)).result := by
  rw [hold_bind, andThen, first]

/-- A failed load is noted and leaves no handle. -/
theorem hold_build (app : App) (context : Context) (uri : String) (shaper : Option VolumeShaper)
    (attributes : AudioAttributes) :
    app.hold (Resolver.build context uri shaper attributes) =
      match (app.load context uri shaper attributes).outcome with
      | .ok handle => ⟨.ok (some handle), (app.load context uri shaper attributes).notices⟩
      | .error failure => ⟨.ok none,
          (app.load context uri shaper attributes).notices ++ [.soundFailed uri failure]⟩ := by
  unfold Resolver.build
  rw [hold_bind, hold_attempt]
  cases loaded : (app.load context uri shaper attributes).outcome with
  | ok handle => simp [andThen, App.reply, loaded, Except.map]
  | error failure => simp [andThen, App.reply, loaded, Except.map, hold_bind]

/-- Building a sound gives the handle that is loaded, if any. -/
theorem build_result (app : App) (context : Context) (uri : String) (shaper : Option VolumeShaper)
    (attributes : AudioAttributes) :
    (app.hold (Resolver.build context uri shaper attributes)).result =
      .ok (app.load context uri shaper attributes).outcome.toOption := by
  rw [hold_build]
  cases (app.load context uri shaper attributes).outcome <;> rfl

/-- The context that is there for a user is that user's; when there is none, the
package counts as missing. -/
theorem scoped_context_cases (device : Device) (package : String) (user : UserHandle) :
    device.scopedContext package user = .ok ⟨package, user⟩ ∨
      ∃ message, device.scopedContext package user = .error ⟨.packageNotFound, message⟩ := by
  unfold Device.scopedContext
  split
  · exact .inr ⟨_, rfl⟩
  · split
    · exact .inl rfl
    · exact .inr ⟨_, rfl⟩

/-- The resolver's package is there for a user, whom the device knows. -/
def HasPackage (app : App) (user : UserHandle) : Prop :=
  ∃ configured, app.device.user? user.identifier = some configured ∧
    Device.hasPackage configured app.settings.resolver.packageName = true

theorem scoped_context_iff (app : App) (user : UserHandle) :
    app.device.scopedContext app.settings.resolver.packageName user =
        .ok ⟨app.settings.resolver.packageName, user⟩ ↔ HasPackage app user := by
  unfold Device.scopedContext HasPackage
  cases app.device.user? user.identifier with
  | none => simp
  | some configured =>
    cases there : Device.hasPackage configured app.settings.resolver.packageName <;> simp [there]

/-- The context of a user is there exactly when the resolver's package is. -/
theorem context_for_user_cases (app : App) (user : UserHandle) :
    let context := (app.hold (app.resolver.contextForUser (some user))).result
    (HasPackage app user ∧ context = .ok (some ⟨app.settings.resolver.packageName, user⟩)) ∨
      (¬ HasPackage app user ∧ context = .ok none) := by
  have asked := attempt_result app (.scopedContext app.resolver.settings.packageName 0 user)
  unfold Resolver.contextForUser
  rw [result_bind app asked, App.reply, ← scoped_context_iff, App.resolver]
  dsimp only
  rcases scoped_context_cases app.device app.settings.resolver.packageName user with
    there | ⟨message, missing⟩
  · rw [there]
    exact .inl ⟨rfl, rfl⟩
  · rw [missing]
    exact .inr ⟨nofun, rfl⟩

/-- Past the guard, an operation answers what its body answers. -/
theorem hold_checked (app : App) {operation : String}
    (passed : app.guard.check operation thread = .ok ()) (body : Dialogue LoadedRingtone α) :
    app.hold (app.resolver.checkThread operation thread >>= fun _ => body) = app.hold body := by
  have admitted : app.resolver.guard.check operation thread = .ok () := passed
  rw [hold_bind, Resolver.checkThread, admitted]
  rfl

/-- An operation that the guard refuses fails, and nothing of it is done. -/
theorem hold_refused (app : App) {operation : String} {failure : Failure}
    (refused : app.guard.check operation thread = .error failure)
    (body : Unit → Dialogue LoadedRingtone α) :
    app.hold (app.resolver.checkThread operation thread >>= body) = ⟨.error failure, []⟩ := by
  have stopped : app.resolver.guard.check operation thread = .error failure := refused
  rw [hold_bind, Resolver.checkThread, stopped]
  rfl

end CallTone.AppAnswers
