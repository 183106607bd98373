import CallTone.Resolver
import CallTone.Resolver.Script

/-! Which failures leave the resolver. Whatever the parts around it answer, and
whether or not they answer alike twice, an operation fails only when it may not
start or one of four requests fails: for the program's own context, for the
session's user, for another volume, or for the context of a package, unless the
package is merely missing. Every other failure is absorbed. An operation may
start when the thread guard lets it, and a silent ring only with a path that can
be encoded. -/
namespace CallTone.BoundaryFailures
open Dialogue

/-- The failures of requests that an operation hands on to its caller. -/
def HandsOn : Request Handle → Failure → Prop
  | .baseContext, _ => True
  | .currentUser, _ => True
  | .setVolume .., _ => True
  | .scopedContext .., failure => failure.kind ≠ .packageNotFound
  | .enabledProfiles _, _ => False
  | .isUnlocked _, _ => False
  | .stringFor .., _ => False
  | .actualDefault .., _ => False
  | .systemDefault _, _ => False
  | .load .., _ => False

/-- The event is a failed request whose failure is handed on. -/
def FailedWith (failure : Failure) : Event Handle → Prop
  | .asked request (.error actual) _ => actual = failure ∧ HandsOn request failure
  | .asked _ (.ok _) _ => False
  | .noted _ => False

/-- Some request failed in the course of the events with a failure that is
handed on. -/
def Crossed (events : List (Event Handle)) (failure : Failure) : Prop :=
  ∃ event ∈ events, FailedWith failure event

/-- A dialogue that fails with the failures that are handed on, at once, and
with no other. -/
def Forthright : Dialogue Handle α → Prop
  | .finish (.ok _) => True
  | .finish (.error _) => False
  | .note _ rest => Forthright rest
  | .ask request next => (∀ value, Forthright (next (.ok value))) ∧
      (∀ failure, HandsOn request failure → next (.error failure) = .finish (.error failure)) ∧
      ∀ failure, ¬ HandsOn request failure → Forthright (next (.error failure))

/-! Runs -/

private theorem crossed_cons {event : Event Handle} {failure : Failure} :
    Crossed (event :: events) failure ↔ FailedWith failure event ∨ Crossed events failure := by
  simp only [Crossed, List.mem_cons, exists_eq_or_imp]

/-- A forthright dialogue fails exactly with what crossed on the way, with any
parts in any state. -/
theorem forthright_run (parts : Collaborators Handle σ) (forthright : Forthright dialogue)
    (state : σ) (failure : Failure) :
    (dialogue.hold parts state).result = .error failure ↔
      Crossed (dialogue.hold parts state).events failure := by
  induction dialogue generalizing state with
  | finish result =>
    cases result with
    | ok value => simp [hold, Crossed]
    | error _ => exact forthright.elim
  | note notice rest ih =>
    simp only [hold, crossed_cons, FailedWith, false_or]
    exact ih forthright state
  | ask request next ih =>
    obtain ⟨answered, handedOn, absorbed⟩ := forthright
    simp only [hold, crossed_cons]
    cases (parts state request).reply with
    | ok value =>
      simp only [FailedWith, false_or]
      exact ih _ (answered value) _
    | error actual =>
      by_cases through : HandsOn request actual
      · simp only [handedOn actual through, hold, FailedWith, Crossed, List.not_mem_nil,
          false_and, exists_false, or_false, Except.error.injEq]
        exact ⟨fun same => ⟨same, same ▸ through⟩, fun same => same.1⟩
      · have absent : ¬ FailedWith failure
            (.asked request (.error actual) (parts state request).remarks) :=
          fun crossed => through (crossed.1 ▸ crossed.2)
        simp only [absent, false_or]
        exact ih _ (absorbed actual through) _

/-! The resolver's dialogues -/

theorem forthright_bind {next : α → Dialogue Handle β} (first : Forthright dialogue)
    (rest : ∀ value, Forthright (next value)) : Forthright (dialogue >>= next) := by
  change Forthright (dialogue.andThen next)
  induction dialogue with
  | finish result =>
    cases result with
    | ok value => exact rest value
    | error _ => exact first.elim
  | note notice dialogue ih => exact ih first
  | ask request reply ih =>
    obtain ⟨answered, handedOn, absorbed⟩ := first
    refine ⟨fun value => ih _ (answered value), fun failure through => ?_,
      fun failure caught => ih _ (absorbed failure caught)⟩
    change (reply (.error failure)).andThen next = _
    rw [handedOn failure through]
    rfl

/-- A request whose failures are all absorbed may be followed by anything
forthright. -/
theorem forthright_attempt {request : Request Handle}
    {next : Except Failure request.Reply → Dialogue Handle α}
    (caught : ∀ failure, ¬ HandsOn request failure) (rest : ∀ reply, Forthright (next reply)) :
    Forthright (attempt request >>= next) :=
  ⟨fun value => rest (.ok value), fun failure through => absurd through (caught failure),
    fun failure _ => rest (.error failure)⟩

/-- A request whose failures are all handed on. -/
theorem forthright_request {request : Request Handle}
    (through : ∀ failure, HandsOn request failure) : Forthright (Dialogue.request request) :=
  ⟨fun _ => trivial, fun _ _ => rfl, fun failure caught => absurd (through failure) caught⟩

theorem context_for_user_forthright (resolver : Resolver) (user : Option UserHandle) :
    Forthright (resolver.contextForUser user : Dialogue Handle (Option Context)) := by
  cases user with
  | none => trivial
  | some user =>
    refine ⟨fun _ => trivial, fun failure through => ?_, fun failure caught => ?_⟩
    · change (if failure.kind = .packageNotFound then _ else _) = _
      rw [if_neg through]
    · change Forthright (if failure.kind = .packageNotFound then _ else _)
      rw [if_pos (Decidable.not_not.mp caught)]
      trivial

theorem work_profile_context_forthright (resolver : Resolver) (user : UserHandle) :
    Forthright (resolver.workProfileContext user : Dialogue Handle (Option Context)) := by
  refine forthright_attempt (fun _ handedOn => handedOn) fun reply => ?_
  cases reply with
  | error failure => trivial
  | ok profiles =>
    dsimp only
    split
    · exact context_for_user_forthright resolver _
    · split <;> trivial

theorem call_context_forthright (resolver : Resolver) (call : IncomingCall) :
    Forthright (resolver.callContext call : Dialogue Handle (Option Context)) := by
  unfold Resolver.callContext
  split
  · exact forthright_bind (forthright_request fun _ => trivial)
      fun user => work_profile_context_forthright resolver user
  · exact context_for_user_forthright resolver _

theorem build_forthright (context : Context) (uri : String) (shaper : Option VolumeShaper)
    (attributes : AudioAttributes) :
    Forthright (Resolver.build context uri shaper attributes : Dialogue Handle (Option Handle)) :=
  forthright_attempt (fun _ handedOn => handedOn) fun reply => by cases reply <;> trivial

theorem caller_selection_forthright (context : Option Context) (ringtone : Option String)
    (shaper : Option VolumeShaper) (attributes : AudioAttributes) :
    Forthright (Resolver.callerSelection context ringtone shaper attributes :
      Dialogue Handle (Option (Selection Handle))) := by
  unfold Resolver.callerSelection
  split
  · split
    · exact forthright_bind (build_forthright ..) fun handle => by cases handle <;> trivial
    · trivial
  · trivial

theorem has_own_default_forthright (context : Option Context) :
    Forthright (Resolver.hasOwnDefault context : Dialogue Handle Bool) := by
  cases context with
  | none => trivial
  | some context =>
    refine forthright_attempt (fun _ handedOn => handedOn) fun reply => ?_
    cases reply <;> trivial

theorem default_context_forthright (context : Option Context) :
    Forthright (Resolver.defaultContext context : Dialogue Handle Context) := by
  refine forthright_bind (has_own_default_forthright context) fun chosen => ?_
  cases context with
  | none => exact forthright_request fun _ => trivial
  | some context =>
    cases chosen with
    | true => trivial
    | false => exact forthright_request fun _ => trivial

theorem stored_default_forthright (context : Context) (unlocked : Bool) :
    Forthright (Resolver.storedDefault context unlocked :
      Dialogue Handle (Except Failure (Option String))) := by
  cases unlocked with
  | true => exact ⟨fun _ => trivial, fun _ handedOn => handedOn.elim, fun _ _ => trivial⟩
  | false => exact ⟨fun _ => trivial, fun _ handedOn => handedOn.elim, fun _ _ => trivial⟩

theorem default_uri_forthright (context : Context) :
    Forthright (Resolver.defaultUri context : Dialogue Handle (Option String)) := by
  refine forthright_attempt (fun _ handedOn => handedOn) fun reply => ?_
  cases reply with
  | error failure => trivial
  | ok unlocked =>
    refine forthright_bind (stored_default_forthright context unlocked) fun stored => ?_
    rcases stored with failure | (_ | uri) <;> trivial

theorem default_selection_forthright (context : Option Context) (shaper : Option VolumeShaper)
    (attributes : AudioAttributes) :
    Forthright (Resolver.defaultSelection context shaper attributes :
      Dialogue Handle (Option (Selection Handle))) := by
  refine forthright_bind (default_context_forthright context) fun chosen => ?_
  refine forthright_bind (default_uri_forthright chosen) fun uri => ?_
  cases uri with
  | none => trivial
  | some uri =>
    dsimp only
    split
    · exact forthright_bind (build_forthright ..) fun handle => trivial
    · trivial

/-! Operations behind their checks -/

/-- A forthright dialogue that starts once a check lets it. -/
def Guarded (check : Except Failure Unit) (dialogue : Dialogue Handle α) : Prop :=
  ∃ body : Dialogue Handle α, Forthright body ∧ dialogue = .finish check >>= fun _ => body

/-- The path cannot be encoded, and the failure says so. -/
def Unencodable (path : Text) (failure : Failure) : Prop :=
  ∃ stray, path.strict = .error stray ∧ failure = Uri.unencodable stray

/-- What is checked before a silent ring starts: the thread, then the path. -/
def silentCheck (resolver : Resolver) (thread : Thread) : Except Failure Unit :=
  match resolver.guard.check "get_haptic_only_ringtone" thread with
  | .error failure => .error failure
  | .ok _ =>
    match resolver.settings.vibrationSoundPath.strict with
    | .error stray => .error (Uri.unencodable stray)
    | .ok _ => .ok ()

theorem silent_check_error_iff {resolver : Resolver} {failure : Failure} :
    silentCheck resolver thread = .error failure ↔
      resolver.guard.check "get_haptic_only_ringtone" thread = .error failure ∨
        resolver.guard.check "get_haptic_only_ringtone" thread = .ok () ∧
          Unencodable resolver.settings.vibrationSoundPath failure := by
  unfold silentCheck Unencodable
  cases resolver.guard.check "get_haptic_only_ringtone" thread with
  | error refusal => simp
  | ok passed =>
    cases resolver.settings.vibrationSoundPath.strict with
    | error stray => simp [eq_comm]
    | ok path => simp

theorem get_ringtone_guarded (resolver : Resolver) (thread : Thread) (call : IncomingCall)
    (shaper : Option VolumeShaper) (muted : Bool) :
    Guarded (resolver.guard.check "get_ringtone" thread)
      (resolver.getRingtone thread call shaper muted :
        Dialogue Handle (Option (Selection Handle))) := by
  refine ⟨_, ?_, rfl⟩
  refine forthright_bind (call_context_forthright resolver call) fun context => ?_
  refine forthright_bind (caller_selection_forthright ..) fun chosen => ?_
  cases chosen with
  | none => exact default_selection_forthright ..
  | some selection => trivial

theorem haptic_selection_forthright (path : String) :
    Forthright (Resolver.hapticSelection path : Dialogue Handle (Selection Handle)) := by
  refine forthright_bind (forthright_request fun _ => trivial) fun context => ?_
  refine forthright_bind (build_forthright ..) fun handle => ?_
  cases handle with
  | none => trivial
  | some handle => exact forthright_bind (forthright_request fun _ => trivial) fun _ => trivial

theorem get_haptic_only_guarded (resolver : Resolver) (thread : Thread) :
    Guarded (silentCheck resolver thread)
      (resolver.getHapticOnly thread : Dialogue Handle (Selection Handle)) := by
  unfold silentCheck Resolver.getHapticOnly Resolver.checkThread
  cases resolver.guard.check "get_haptic_only_ringtone" thread with
  | error refusal => exact ⟨_, haptic_selection_forthright "", rfl⟩
  | ok passed =>
    cases resolver.settings.vibrationSoundPath.strict with
    | error stray => exact ⟨_, haptic_selection_forthright "", rfl⟩
    | ok path => exact ⟨_, haptic_selection_forthright path, rfl⟩

/-- Behind its check, an operation fails exactly with the failure of the check or
with what crossed. -/
theorem guarded_run {check : Except Failure Unit} (parts : Collaborators Handle σ)
    (guarded : Guarded check dialogue) (state : σ) (failure : Failure) :
    (dialogue.hold parts state).result = .error failure ↔
      check = .error failure ∨ Crossed (dialogue.hold parts state).events failure := by
  obtain ⟨body, forthright, rfl⟩ := guarded
  change (((Dialogue.finish check).andThen _).hold _ _).result = _ ↔
    _ ∨ Crossed (((Dialogue.finish check).andThen _).hold _ _).events _
  cases check with
  | error refusal => simp [andThen, hold, Crossed]
  | ok passed =>
    simp only [andThen, reduceCtorEq, false_or]
    exact forthright_run parts forthright state failure

theorem refusal_kind {guard : Guard} {failure : Failure}
    (refused : guard.check operation thread = .error failure) : failure.kind = .wrongThread := by
  unfold Guard.check at refused
  split at refused
  · exact Except.error.inj refused ▸ rfl
  · cases refused

/-- Only refusals of the thread guard leave the operation. -/
def OnlyRefusals (outcome : Outcome Handle σ α) : Prop :=
  ∀ failure, outcome.result = .error failure → failure.kind = .wrongThread

theorem only_refusals_iff {check : Except Failure Unit} (parts : Collaborators Handle σ)
    (guarded : Guarded check dialogue) (state : σ) :
    OnlyRefusals (dialogue.hold parts state) ↔
      (∀ failure, check = .error failure → failure.kind = .wrongThread) ∧
      ∀ failure, Crossed (dialogue.hold parts state).events failure →
        failure.kind = .wrongThread := by
  simp only [OnlyRefusals, guarded_run parts guarded state, or_imp, forall_and]

/-- What is checked before a silent ring refuses nothing but its thread exactly when
its path can be encoded, or the guard comes first. -/
theorem silent_check_refuses_iff (resolver : Resolver) (thread : Thread) :
    (∀ failure, silentCheck resolver thread = .error failure → failure.kind = .wrongThread) ↔
      (resolver.guard.check "get_haptic_only_ringtone" thread = .ok () →
        resolver.settings.vibrationSoundPath.isString = true) := by
  simp only [silent_check_error_iff, Text.isString_iff, Unencodable]
  constructor
  · intro only passed
    cases written : resolver.settings.vibrationSoundPath.strict with
    | error stray => cases only _ (.inr ⟨passed, stray, written, rfl⟩)
    | ok path => exact ⟨path, rfl⟩
  · rintro plain failure (refused | ⟨passed, stray, unwritten, -⟩)
    · exact refusal_kind refused
    · obtain ⟨path, written⟩ := plain passed
      rw [written] at unwritten
      cases unwritten

/-- Exactly three kinds of failure leave the two operations: what the thread guard
refuses, what a request failed with that is handed on, and, of a silent ring that the
guard lets start, that its path cannot be encoded. So nothing but a refusal leaves
exactly when no other failure is handed on, nor such a path met. -/
theorem failures_that_leave (resolver : Resolver) (parts : Collaborators Handle σ) (state : σ)
    (thread : Thread) (call : IncomingCall) (shaper : Option VolumeShaper) (muted : Bool) :
    let ringing := (resolver.getRingtone thread call shaper muted).hold parts state
    let silent := (resolver.getHapticOnly thread).hold parts state
    (∀ failure, ringing.result = .error failure ↔
      resolver.guard.check "get_ringtone" thread = .error failure ∨
        Crossed ringing.events failure) ∧
    (∀ failure, silent.result = .error failure ↔
      resolver.guard.check "get_haptic_only_ringtone" thread = .error failure ∨
        resolver.guard.check "get_haptic_only_ringtone" thread = .ok () ∧
          Unencodable resolver.settings.vibrationSoundPath failure ∨
        Crossed silent.events failure) ∧
    (OnlyRefusals ringing ↔
      ∀ failure, Crossed ringing.events failure → failure.kind = .wrongThread) ∧
    (OnlyRefusals silent ↔
      (resolver.guard.check "get_haptic_only_ringtone" thread = .ok () →
        resolver.settings.vibrationSoundPath.isString = true) ∧
      ∀ failure, Crossed silent.events failure → failure.kind = .wrongThread) := by
  have ringing : Guarded (resolver.guard.check "get_ringtone" thread)
      (resolver.getRingtone thread call shaper muted : Dialogue Handle _) :=
    get_ringtone_guarded resolver thread call shaper muted
  have silent : Guarded (silentCheck resolver thread)
      (resolver.getHapticOnly thread : Dialogue Handle _) := get_haptic_only_guarded resolver thread
  refine ⟨guarded_run parts ringing state, fun failure => ?_, ?_, ?_⟩
  · rw [guarded_run parts silent state failure, silent_check_error_iff, or_assoc]
  · rw [only_refusals_iff parts ringing state]
    exact and_iff_right fun failure refused => refusal_kind refused
  · rw [only_refusals_iff parts silent state, silent_check_refuses_iff]

/-- Parts that know no context of the program itself. -/
def contextless : Script where
  sessionUser := 0
  baseUser := 0
  profiles := []
  missing := []
  locked := []
  strings := []
  defaults := []
  systemDefault := none
  sounds := []
  failures := [("base_context", ⟨.system, "user manager unavailable"⟩)]

/-- A failed request for the program's own context leaves the operation, though
no thread is guarded. -/
theorem base_context_failure_leaves :
    ¬ ∀ (resolver : Resolver) (parts : Collaborators ScriptedRingtone Unit) (thread : Thread)
        (call : IncomingCall) (shaper : Option VolumeShaper) (muted : Bool),
      OnlyRefusals ((resolver.getRingtone thread call shaper muted).hold parts ()) ∧
        OnlyRefusals ((resolver.getHapticOnly thread).hold parts ()) := by
  intro only
  have ringing := (only ⟨{}, Guard.ofMain false⟩ contextless.collaborators Thread.main
    ⟨none, none, none⟩ none false).1
  have kind := ringing ⟨.system, "user manager unavailable"⟩ rfl
  cases kind

end CallTone.BoundaryFailures
