import CallTone.Proofs.BoundaryFailures

/-! The thread guard through a session. Calls, new settings and new parts follow one
another in any order and on any threads. The guard is the one of the start: it
rejects a call by its thread alone, before anything is asked or noted, so that the
session goes on as if the call had not been made. What it lets start fails for what
a request failed with, or for a path that cannot be encoded. -/
namespace CallTone.GuardedSessions
open Dialogue BoundaryFailures

/-! Sessions -/

/-- What is asked of a resolver. -/
inductive Operation where
  /-- The sound for a call. -/
  | ringtone (call : IncomingCall) (shaper : Option VolumeShaper) (muted : Bool)
  /-- The sound of a silent ring. -/
  | silent

/-- The name under which the guard refuses an operation. -/
def Operation.name : Operation → String
  | .ringtone .. => "get_ringtone"
  | .silent => "get_haptic_only_ringtone"

/-- What the resolver does for an operation. -/
def Operation.dialogue (resolver : Resolver) (thread : Thread) :
    Operation → Dialogue Handle (Option (Selection Handle))
  | .ringtone call shaper muted => resolver.getRingtone thread call shaper muted
  | .silent => some <$> resolver.getHapticOnly thread

/-- What is checked before an operation starts. -/
def Operation.check (resolver : Resolver) (thread : Thread) : Operation → Except Failure Unit
  | .ringtone .. => resolver.guard.check "get_ringtone" thread
  | .silent => silentCheck resolver thread

/-- The settings keep an operation from starting: the path of a silent ring cannot be
encoded. -/
def Operation.Unready (settings : ResolverSettings) (failure : Failure) : Operation → Prop
  | .ringtone .. => False
  | .silent => Unencodable settings.vibrationSoundPath failure

/-- A resolver among its parts, and the state that these are in. -/
structure Session (Handle σ : Type) where
  resolver : Resolver
  parts : Collaborators Handle σ
  state : σ

/-- A move of a session: a call on a thread, other settings for the resolver, or
other parts in a state of their own. -/
inductive Move (Handle σ : Type) where
  | call (thread : Thread) (operation : Operation)
  | settings (settings : ResolverSettings)
  | parts (parts : Collaborators Handle σ) (state : σ)

namespace Session

/-- What a call comes to. -/
def outcome (session : Session Handle σ) (thread : Thread) (operation : Operation) :
    Outcome Handle σ (Option (Selection Handle)) :=
  (operation.dialogue session.resolver thread).hold session.parts session.state

/-- The session after a move. -/
def step (session : Session Handle σ) : Move Handle σ → Session Handle σ
  | .call thread operation => { session with state := (session.outcome thread operation).state }
  | .settings settings => { session with resolver := { session.resolver with settings } }
  | .parts parts state => { session with parts, state }

/-- What a move is answered with: only calls are. -/
def told (session : Session Handle σ) :
    Move Handle σ → List (Outcome Handle σ (Option (Selection Handle)))
  | .call thread operation => [session.outcome thread operation]
  | _ => []

/-- What the calls among the moves come to, in order. -/
def answers (session : Session Handle σ) :
    List (Move Handle σ) → List (Outcome Handle σ (Option (Selection Handle)))
  | [] => []
  | move :: rest => session.told move ++ answers (session.step move) rest

theorem answers_append (session : Session Handle σ) (before after : List (Move Handle σ)) :
    session.answers (before ++ after) =
      session.answers before ++ (before.foldl step session).answers after := by
  induction before generalizing session with
  | nil => rfl
  | cons move rest ih =>
    rw [List.cons_append, answers, answers, ih, List.append_assoc]
    rfl

/-- No move gives the resolver another guard. -/
theorem step_guard (session : Session Handle σ) (move : Move Handle σ) :
    (session.step move).resolver.guard = session.resolver.guard := by
  cases move <;> rfl

theorem steps_guard (session : Session Handle σ) (moves : List (Move Handle σ)) :
    (moves.foldl step session).resolver.guard = session.resolver.guard := by
  induction moves generalizing session with
  | nil => rfl
  | cons move rest ih => exact (ih (session.step move)).trans (session.step_guard move)

end Session

/-! Rejected calls -/

/-- The guard that is decided on when a resolver is made: the given one, else one of
the main thread that is enabled as the settings say, and without settings enabled. -/
def decided (settings : Option ResolverSettings) (given : Option Guard) : Guard :=
  given.getD ⟨(settings.map ResolverSettings.enforceThreadCheck).getD true, none⟩

/-- The guard lets no operation start on the thread. Threads of one name are not
one thread. -/
def Rejects (guard : Guard) (thread : Thread) : Prop :=
  guard.enabled = true ∧ thread.serial = guard.dispatchThread.serial

/-- Some request was answered with the failure. -/
def Reported (events : List (Event Handle)) (failure : Failure) : Prop :=
  ∃ request remarks, Event.asked request (.error failure) remarks ∈ events

/-- The call fails with a failure of its own, not with that of a request. -/
def FailsByItself (outcome : Outcome Handle σ α) (failure : Failure) : Prop :=
  outcome.result = .error failure ∧ ¬ Reported outcome.events failure

theorem made_guard (settings : Option ResolverSettings) (given : Option Guard) :
    (Resolver.make settings given).guard = decided settings given := by
  cases settings <;> rfl

theorem check_error_iff {guard : Guard} {failure : Failure} :
    guard.check operation thread = .error failure ↔
      Rejects guard thread ∧ failure = guard.refusal operation := by
  unfold Guard.check Guard.isDispatch Rejects
  split
  next held =>
    have rejected : guard.enabled = true ∧ thread.serial = guard.dispatchThread.serial := by
      simpa using held
    simp [rejected, eq_comm]
  next free =>
    have admitted : ¬ (guard.enabled = true ∧ thread.serial = guard.dispatchThread.serial) := by
      simpa using free
    simp [admitted]

theorem check_ok_iff {guard : Guard} :
    guard.check operation thread = .ok () ↔ ¬ Rejects guard thread := by
  constructor
  · intro passed rejected
    have refused : guard.check operation thread = .error (guard.refusal operation) :=
      check_error_iff.mpr ⟨rejected, rfl⟩
    rw [passed] at refused
    cases refused
  · intro admitted
    cases checked : guard.check operation thread with
    | ok _ => rfl
    | error failure => exact absurd (check_error_iff.mp checked).1 admitted

/-- An operation is kept from starting by the guard, or else by the settings. -/
theorem operation_check_error_iff {resolver : Resolver} {operation : Operation}
    {failure : Failure} :
    operation.check resolver thread = .error failure ↔
      Rejects resolver.guard thread ∧ failure = resolver.guard.refusal operation.name ∨
        ¬ Rejects resolver.guard thread ∧ operation.Unready resolver.settings failure := by
  cases operation with
  | ringtone call shaper muted =>
    simp only [Operation.check, Operation.Unready, Operation.name, check_error_iff, and_false,
      or_false]
  | silent =>
    simp only [Operation.check, Operation.Unready, Operation.name, silent_check_error_iff,
      check_error_iff, check_ok_iff]

theorem reported_of_crossed {events : List (Event Handle)} {failure : Failure}
    (crossed : Crossed events failure) : Reported events failure := by
  obtain ⟨event, member, failed⟩ := crossed
  match event, failed with
  | .asked request (.error _) remarks, ⟨rfl, _⟩ => exact ⟨request, remarks, member⟩

theorem guarded_map {dialogue : Dialogue Handle α} {check : Except Failure Unit} (f : α → β)
    (guarded : Guarded check dialogue) : Guarded check (f <$> dialogue) := by
  obtain ⟨body, forthright, rfl⟩ := guarded
  refine ⟨f <$> body, forthright_bind forthright fun _ => trivial, ?_⟩
  cases check <;> rfl

theorem operation_guarded (resolver : Resolver) (thread : Thread) (operation : Operation) :
    Guarded (operation.check resolver thread)
      (operation.dialogue resolver thread : Dialogue Handle (Option (Selection Handle))) := by
  cases operation with
  | ringtone call shaper muted => exact get_ringtone_guarded resolver thread call shaper muted
  | silent => exact guarded_map some (get_haptic_only_guarded resolver thread)

/-- A refusal is all that a guarded dialogue comes to. -/
theorem guarded_refused {check : Except Failure Unit} {failure : Failure}
    (parts : Collaborators Handle σ) (state : σ) (guarded : Guarded check dialogue)
    (refused : check = .error failure) :
    dialogue.hold parts state = ⟨.error failure, [], state⟩ := by
  obtain ⟨body, -, rfl⟩ := guarded
  rw [refused]
  rfl

/-- A call fails by itself exactly when the guard rejects it, or else the settings keep
it from starting. -/
theorem fails_by_itself_iff (session : Session Handle σ) (thread : Thread) (operation : Operation)
    (failure : Failure) :
    FailsByItself (session.outcome thread operation) failure ↔
      Rejects session.resolver.guard thread ∧
          failure = session.resolver.guard.refusal operation.name ∨
        ¬ Rejects session.resolver.guard thread ∧
          operation.Unready session.resolver.settings failure := by
  have guarded : Guarded (operation.check session.resolver thread)
      (operation.dialogue session.resolver thread : Dialogue Handle _) :=
    operation_guarded session.resolver thread operation
  rw [← operation_check_error_iff]
  constructor
  · rintro ⟨failed, unreported⟩
    rcases (guarded_run session.parts guarded session.state failure).mp failed with
      refused | crossed
    · exact refused
    · exact absurd (reported_of_crossed crossed) unreported
  · intro refused
    unfold FailsByItself Session.outcome
    rw [guarded_refused session.parts session.state guarded refused]
    exact ⟨rfl, fun ⟨_, _, member⟩ => nomatch member⟩

/-- A rejected call asks and notes nothing, and the parts stay as they are. -/
theorem rejected_outcome (session : Session Handle σ) (operation : Operation)
    (rejected : Rejects session.resolver.guard thread) :
    session.outcome thread operation =
      ⟨.error (session.resolver.guard.refusal operation.name), [], session.state⟩ :=
  guarded_refused session.parts session.state
    (operation_guarded session.resolver thread operation)
    (operation_check_error_iff.mpr (.inl ⟨rejected, rfl⟩))

/-- A rejected call leaves the session as it is. -/
theorem rejected_step (session : Session Handle σ) (operation : Operation)
    (rejected : Rejects session.resolver.guard thread) :
    session.step (.call thread operation) = session := by
  rw [Session.step, rejected_outcome session operation rejected]

/-! Whole sessions -/

/-- Only the guard refuses a thread: a path that cannot be encoded is told otherwise. -/
theorem unready_other {operation : Operation} {settings : ResolverSettings} (guard : Guard) :
    ¬ operation.Unready settings (guard.refusal operation.name) := by
  cases operation with
  | ringtone call shaper muted => exact id
  | silent =>
    rintro ⟨stray, -, same⟩
    cases congrArg Failure.kind same

/-- Wherever a call is made in a session, it fails by itself with the guard's refusal
exactly when the guard that was decided on at the start is enabled and guards the
call's thread. It leaves no event then, and the calls after it are answered as if it
had not been made. Nothing else fails by itself but a silent ring for a path that
cannot be encoded. -/
theorem guard_decides_once (settings : Option ResolverSettings) (given : Option Guard)
    (parts : Collaborators Handle σ) (state : σ) (before after : List (Move Handle σ))
    (thread : Thread) (operation : Operation) :
    let guard := decided settings given
    let start : Session Handle σ := ⟨Resolver.make settings given, parts, state⟩
    let now := before.foldl Session.step start
    let outcome := now.outcome thread operation
    let later := (now.step (.call thread operation)).answers after
    start.answers (before ++ .call thread operation :: after) =
        start.answers before ++ outcome :: later ∧
      (FailsByItself outcome (guard.refusal operation.name) ↔ Rejects guard thread) ∧
      (∀ failure, FailsByItself outcome failure ↔
        Rejects guard thread ∧ failure = guard.refusal operation.name ∨
          ¬ Rejects guard thread ∧ operation.Unready now.resolver.settings failure) ∧
      (Rejects guard thread →
        outcome = ⟨.error (guard.refusal operation.name), [], now.state⟩ ∧
          start.answers (before ++ after) = start.answers before ++ later) := by
  intro guard start now outcome later
  have same : now.resolver.guard = guard :=
    (start.steps_guard before).trans (made_guard settings given)
  have own (failure : Failure) : FailsByItself outcome failure ↔
      Rejects guard thread ∧ failure = guard.refusal operation.name ∨
        ¬ Rejects guard thread ∧ operation.Unready now.resolver.settings failure := by
    rw [← same]
    exact fails_by_itself_iff now thread operation failure
  refine ⟨start.answers_append before _, ?_, own, fun rejected => ?_⟩
  · simp [own, unready_other]
  · rw [← same] at rejected ⊢
    refine ⟨rejected_outcome now operation rejected, ?_⟩
    rw [start.answers_append before after]
    exact congrArg (start.answers before ++ ·.answers after)
      (rejected_step now operation rejected).symm

/-- Parts that answer every request with the guard's own words. -/
def echoing : Collaborators ScriptedRingtone Unit := fun _ _ =>
  ⟨.error ((Guard.ofMain true).refusal "get_ringtone"), [], ()⟩

/-- A resolver without settings is given some that ask for no guard. It goes on to
reject the main thread, and the call after that is answered all the same. Another
thread of that name is not rejected, though the parts fail it in the same words. -/
theorem main_thread_rejected_after_new_settings :
    let start : Session ScriptedRingtone Unit := ⟨Resolver.make none none, echoing, ()⟩
    let unguarded : Move ScriptedRingtone Unit := .settings { enforceThreadCheck := false }
    let call : Operation := .ringtone ⟨some "content://media/1", none, none⟩ none false
    let twin : Thread := ⟨7, "MainThread"⟩
    let refusal := (Guard.ofMain true).refusal "get_ringtone"
    start.answers [unguarded, .call Thread.main call, .call twin .silent] =
        ⟨.error refusal, [], ()⟩ :: start.answers [unguarded, .call twin .silent] ∧
      ((start.step unguarded).outcome twin call).result = .error refusal ∧
      ¬ FailsByItself ((start.step unguarded).outcome twin call) refusal := by
  intro start unguarded call twin refusal
  have rejected : Rejects (decided none none) Thread.main := ⟨rfl, rfl⟩
  have admitted : ¬ Rejects (decided none none) twin := fun held => nomatch held.2
  obtain ⟨answered, -, -, refused⟩ := guard_decides_once none none echoing () [unguarded]
    [.call twin .silent] Thread.main call
  obtain ⟨outcome, later⟩ := refused rejected
  obtain ⟨-, own, -⟩ := guard_decides_once none none echoing () [unguarded] [] twin call
  rw [outcome] at answered
  exact ⟨answered.trans (congrArg (List.cons _) later.symm), rfl,
    fun failed => admitted (own.mp failed)⟩

end CallTone.GuardedSessions
