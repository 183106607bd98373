import CallTone.App
import CallTone.Proofs.ResolverRuns
import CallTone.Resolver.Script

/-! What becomes of failures. Every failed request of an operation is either
absorbed, and then noted once, or it is the failure of the operation, and then
nothing follows it. Warnings and errors are noted for nothing else. Counting is
done over a whole run: absorbed failures and complaints are the same list. -/
namespace CallTone.FailureReports
open Dialogue DialogueRuns ResolverRuns

/-- The level at which the failure of a request is noted, if it is absorbed. -/
def absorbedAt : Request Handle → Failure → Option LogLevel
  | .enabledProfiles _, _ | .stringFor .., _ | .isUnlocked _, _ | .actualDefault .., _
  | .systemDefault _, _ | .load .., _ => some LogLevel.error
  | .scopedContext .., failure =>
    if failure.kind = .packageNotFound then some LogLevel.warning else none
  | .currentUser, _ | .baseContext, _ | .setVolume .., _ => none

/-- The failure of an event that is not absorbed. -/
def raisedBy : Event Handle → Option Failure
  | .asked request (.error failure) _ =>
    if absorbedAt request failure = none then some failure else none
  | _ => none

/-- The failure of an event that is absorbed, and the level at which it is due. -/
def absorbedBy : Event Handle → Option (LogLevel × Failure)
  | .asked request (.error failure) _ => (absorbedAt request failure).map (·, failure)
  | _ => none

/-- The failure that a notice is about: one that it carries, or one whose
message it repeats. -/
def subject : Notice → Option Failure
  | .packageMissing failure => some failure
  | notice => notice.failure?

/-- The level and the subject of a notice of the resolver that warns or reports
an error. -/
def complaint : Event Handle → Option (LogLevel × Option Failure)
  | .noted notice =>
    if LogLevel.warning ≤ notice.level then some (notice.level, subject notice) else none
  | .asked .. => none

/-- The failure that a result is, if it is one. -/
def failureOf : Except Failure α → List Failure
  | .ok _ => []
  | .error failure => [failure]

/-- No failure is lost or noted twice: the complaints of the run are its absorbed
failures, each at its level; any other failure is the result, and can only be
the last event. -/
structure Accounted (events : List (Event Handle)) (result : Except Failure α) : Prop where
  complaints : events.filterMap complaint =
    (events.filterMap absorbedBy).map fun due => (due.1, some due.2)
  raised : events.filterMap raisedBy = failureOf result
  last : ∀ event ∈ events.dropLast, raisedBy event = none

/-! Pieces of a run -/

theorem accounted_nothing (value : α) : Accounted ([] : List (Event Handle)) (.ok value) :=
  ⟨rfl, rfl, fun _ member => by cases member⟩

theorem accounted_append (first : Accounted before (.ok value)) (second : Accounted after result) :
    Accounted (before ++ after) result := by
  have quiet : before.filterMap raisedBy = [] := first.raised
  refine ⟨?_, ?_, fun event member => ?_⟩
  · rw [List.filterMap_append, List.filterMap_append, List.map_append, first.complaints,
      second.complaints]
  · rw [List.filterMap_append, quiet, List.nil_append, second.raised]
  · rw [List.dropLast_append] at member
    split at member
    · exact first.last event member
    · rcases List.mem_append.mp member with early | late
      · exact List.filterMap_eq_nil_iff.mp quiet event early
      · exact second.last event late

theorem accounted_answer {request : Request Handle} {reply : request.Reply}
    {remarks : List Notice} (value : α) :
    Accounted [.asked request (.ok reply) remarks] (.ok value) :=
  ⟨rfl, rfl, fun _ member => by cases member⟩

theorem accounted_remark {notice : Notice} (mild : complaint (.noted notice : Event Handle) = none)
    (value : α) : Accounted [(.noted notice : Event Handle)] (.ok value) := by
  refine ⟨?_, rfl, fun _ member => by cases member⟩
  rw [List.filterMap_cons_none mild]
  rfl

/-- An absorbed failure, followed by its notice. -/
theorem accounted_absorbed {request : Request Handle} {failure : Failure} {notice : Notice}
    (absorbed : absorbedAt request failure = some notice.level)
    (noted : complaint (.noted notice : Event Handle) = some (notice.level, some failure))
    {remarks : List Notice} (value : α) :
    Accounted [.asked request (.error failure) remarks, .noted notice] (.ok value) := by
  have due : absorbedBy (.asked request (.error failure) remarks) = some (notice.level, failure) :=
    congrArg (Option.map (·, failure)) absorbed
  have kept : raisedBy (.asked request (.error failure) remarks) = none := by
    simp [raisedBy, absorbed]
  refine ⟨?_, ?_, fun event member => ?_⟩
  · rw [List.filterMap_cons_none rfl, List.filterMap_cons_some noted, List.filterMap_cons_some due]
    rfl
  · rw [List.filterMap_cons_none kept]
    rfl
  · cases List.mem_singleton.mp member
    exact kept

theorem accounted_raise {request : Request Handle} {failure : Failure}
    (through : absorbedAt request failure = none) {remarks : List Notice} :
    Accounted [.asked request (.error failure) remarks] (.error failure : Except Failure α) := by
  have raised : raisedBy (.asked request (.error failure) remarks) = some failure := if_pos through
  have absorbed : absorbedBy (.asked request (.error failure) remarks) = none :=
    congrArg (Option.map (·, failure)) through
  refine ⟨?_, ?_, fun _ member => by cases member⟩
  · rw [List.filterMap_cons_none rfl, List.filterMap_cons_none absorbed]
    rfl
  · rw [List.filterMap_cons_some raised]
    rfl

/-- A request whose failures are all the operation's own, as the last one. -/
theorem accounted_request {request : Request Handle}
    (through : ∀ failure, absorbedAt request failure = none) {reply : Except Failure request.Reply}
    {remarks : List Notice} : Accounted [.asked request reply remarks] reply := by
  cases reply with
  | ok value => exact accounted_answer value
  | error failure => exact accounted_raise (through failure)

/-- Only the failure of a result counts, not what it would have been. -/
theorem accounted_as {other : Except Failure β} (ran : Accounted events result)
    (same : failureOf result = failureOf other) : Accounted events other :=
  ⟨ran.complaints, ran.raised.trans same, ran.last⟩

theorem failure_of_map (f : α → β) (result : Except Failure α) :
    failureOf (result.map f) = failureOf result := by
  cases result <;> rfl

/-! The parts of the resolver -/

theorem context_accounted (ran : ContextRun package user events result) :
    Accounted events result := by
  cases ran with
  | nobody => exact accounted_nothing none
  | found user context remarks => exact accounted_answer (some context)
  | missing user absent remarks =>
    exact accounted_absorbed (by exact if_pos absent) (by rfl) none
  | raised user other remarks =>
    exact accounted_raise (by exact if_neg other)

theorem profile_accounted (ran : ProfileRun package user events result) :
    Accounted events result := by
  cases ran with
  | unlisted failure remarks => exact accounted_absorbed (by rfl) (by rfl) none
  | nobody _ remarks => exact accounted_answer none
  | one _ remarks ran =>
    exact accounted_append (accounted_answer ()) (context_accounted ran)
  | several _ remarks =>
    exact accounted_append (accounted_answer ()) (accounted_remark (by rfl) none)

theorem call_context_accounted (ran : CallContextRun package call events result) :
    Accounted events result := by
  cases ran with
  | sessionless _ failure remarks =>
    exact accounted_raise (by rfl)
  | profile _ user remarks ran =>
    exact accounted_append (accounted_answer ()) (profile_accounted ran)
  | associated _ ran => exact context_accounted ran

theorem build_accounted (ran : BuildRun context uri shaper attributes events handle) (value : α) :
    Accounted events (.ok value) := by
  cases ran with
  | answered handle remarks => exact accounted_answer value
  | failed failure remarks => exact accounted_absorbed (by rfl) (by rfl) value

theorem caller_accounted (ran : CallerRun shaper attributes context ringtone events selection)
    (value : α) : Accounted events (.ok value) := by
  cases ran with
  | untried => exact accounted_nothing value
  | played _ ran => exact build_accounted ran value
  | unplayable _ ran => exact build_accounted ran value

theorem own_default_accounted (ran : OwnDefaultRun resolved events own) (value : α) :
    Accounted events (.ok value) := by
  cases ran with
  | contextless => exact accounted_nothing value
  | chosen _ _ remarks => exact accounted_answer value
  | unset _ remarks => exact accounted_answer value
  | unreadable _ failure remarks => exact accounted_absorbed (by rfl) (by rfl) value

theorem default_context_accounted (ran : DefaultContextRun resolved events result) :
    Accounted events result := by
  cases ran with
  | own context ran => exact own_default_accounted ran context
  | base ran reply remarks =>
    exact accounted_append (own_default_accounted ran ())
      (accounted_request fun _ => rfl)

/-- Reading the stored default, with the notice of its failure. -/
theorem unreadable_accounted {failure : Failure}
    (read : StoredRun context unlocked events (.error failure)) (value : α) :
    Accounted (events ++ [.noted (.defaultUnreadable context.user failure)]) (.ok value) := by
  cases read with
  | own _ remarks => exact accounted_absorbed (by rfl) (by rfl) value
  | systemwide _ remarks => exact accounted_absorbed (by rfl) (by rfl) value

theorem stored_accounted {stored : Option String}
    (read : StoredRun context unlocked events (.ok stored)) (value : α) :
    Accounted events (.ok value) := by
  cases read with
  | own _ remarks => exact accounted_answer value
  | systemwide _ remarks => exact accounted_answer value

theorem default_uri_accounted (ran : DefaultUriRun context events uri) (value : α) :
    Accounted events (.ok value) := by
  cases ran with
  | lockUnknown failure remarks => exact accounted_absorbed (by rfl) (by rfl) value
  | unreadable unlocked remarks read =>
    exact accounted_append (accounted_answer ()) (unreadable_accounted read value)
  | unset unlocked remarks read =>
    refine accounted_append (accounted_answer ())
      (accounted_append (stored_accounted read ()) (accounted_remark ?_ value))
    cases unlocked <;> rfl
  | stored unlocked remarks read =>
    exact accounted_append (accounted_answer ()) (stored_accounted read value)

theorem default_accounted (ran : DefaultRun resolved shaper attributes events result) :
    Accounted events result := by
  cases ran with
  | contextless chosen => exact accounted_as (default_context_accounted chosen) rfl
  | nothing chosen read =>
    exact accounted_append (default_context_accounted chosen) (default_uri_accounted read none)
  | named chosen read _ ran =>
    exact accounted_append (default_context_accounted chosen)
      (accounted_append (default_uri_accounted read ()) (build_accounted ran _))

theorem ringtone_accounted (ran : RingtoneRun package call shaper attributes events result) :
    Accounted events result := by
  cases ran with
  | contextless found => exact accounted_as (call_context_accounted found) rfl
  | caller found tried =>
    exact accounted_append (call_context_accounted found) (caller_accounted tried _)
  | default found tried ran =>
    exact accounted_append (call_context_accounted found)
      (accounted_append (caller_accounted tried ()) (default_accounted ran))

theorem haptic_accounted (ran : HapticRun uri events result) : Accounted events result := by
  cases ran with
  | contextless failure remarks =>
    exact accounted_raise (by rfl)
  | unplayable context remarks ran =>
    exact accounted_append (accounted_answer ()) (build_accounted ran none)
  | loaded context remarks ran reply further =>
    exact accounted_append (accounted_answer context)
      (accounted_append (build_accounted ran ())
        (accounted_as (accounted_request fun _ => rfl) (failure_of_map some reply).symm))

/-! Operations -/

/-- Once the thread guard lets it start, no failure of an operation is lost or
noted twice, whatever the parts answer. A silent ring whose path cannot be encoded
fails for that before it asks anything. -/
theorem failures_noted_once (resolver : Resolver) (parts : Collaborators Handle σ) (state : σ)
    (thread : Thread) (call : IncomingCall) (shaper : Option VolumeShaper) (muted : Bool) :
    let ringing := (resolver.getRingtone thread call shaper muted).hold parts state
    let silent := (resolver.getHapticOnly thread).hold parts state
    (resolver.guard.check "get_ringtone" thread = .ok () →
      Accounted ringing.events ringing.result) ∧
    (resolver.guard.check "get_haptic_only_ringtone" thread = .ok () →
      (∀ path, resolver.settings.vibrationSoundPath.strict = .ok path →
        Accounted silent.events silent.result) ∧
      ∀ stray, resolver.settings.vibrationSoundPath.strict = .error stray →
        silent.events = [] ∧ silent.result = .error (Uri.unencodable stray)) := by
  refine ⟨fun passed => ?_, fun passed => ?_⟩
  · exact ringtone_accounted (get_ringtone_run passed (hold_run parts state _))
  · rcases get_haptic_only_run passed (hold_run parts state _) with
      ⟨stray, unwritten, quiet, failed⟩ | ⟨path, written, ran, -⟩
    · rw [unwritten]
      refine ⟨nofun, ?_⟩
      rintro _ ⟨⟩
      exact ⟨quiet, failed⟩
    · rw [written]
      exact ⟨fun _ _ => accounted_as (haptic_accounted ran) (failure_of_map _ _), nofun⟩

/-- Parts with a work profile that lacks the package, and without any sound that
can be loaded. -/
def failing : Script where
  sessionUser := 0
  baseUser := 0
  profiles := [("0", [(0, false), (10, true)])]
  missing := [10]
  locked := []
  strings := []
  defaults := [("0", some "default")]
  systemDefault := none
  sounds := []
  failures := [("get_ringtone", ⟨.soundLoad, "unreadable"⟩)]

/-- A work contact's call with a missing package and an unreadable default, and a
silent ring with an unreadable sound: each failure is noted once. -/
theorem work_call_failures_noted :
    let resolver : Resolver := ⟨{}, Guard.ofMain true⟩
    let ringing := (resolver.getRingtone App.worker ⟨some "chosen", some .work, none⟩ none
      false).hold failing.collaborators ()
    let silent := (resolver.getHapticOnly App.worker).hold failing.collaborators ()
    resolver.guard.check "get_ringtone" App.worker = .ok () ∧
    resolver.guard.check "get_haptic_only_ringtone" App.worker = .ok () ∧
    ringing.events.filterMap complaint =
      [(LogLevel.warning, some ⟨.packageNotFound, "org.ringtone.resolver"⟩),
        (LogLevel.error, some ⟨.soundLoad, "unreadable"⟩)] ∧
    silent.events.filterMap complaint = [(LogLevel.error, some ⟨.soundLoad, "unreadable"⟩)] := by
  have noted := failures_noted_once ⟨{}, Guard.ofMain true⟩ failing.collaborators () App.worker
    ⟨some "chosen", some .work, none⟩ none false
  have ringing := (noted.1 rfl).complaints
  have silent := ((noted.2 rfl).1 "" rfl).complaints
  exact ⟨rfl, rfl, ringing.trans rfl, silent.trans rfl⟩

end CallTone.FailureReports
