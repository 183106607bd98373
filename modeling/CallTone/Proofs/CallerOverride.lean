import CallTone.App
import CallTone.Proofs.ResolverRuns

/-! The caller's ringtone as an override. The same call is run with a ringtone of
the caller and without one, among parts that answer equal requests alike. Either
the ringtone is played, or the two runs come to the same: a ringtone that cannot
be played is tried once and then leaves no trace in what is selected. -/
namespace CallTone.CallerOverride
open Dialogue DialogueRuns ResolverRuns

/-- How parts answer whose replies and notices depend on the request alone. -/
abbrev Answering (Handle : Type) := (r : Request Handle) → Except Failure r.Reply × List Notice

/-- The parts that answer so. -/
def answering (answer : Answering Handle) : Collaborators Handle Unit :=
  fun _ r => ⟨(answer r).1, (answer r).2, ()⟩

/-- Device and engine of an application are such parts. -/
example (app : App) : app.collaborators = answering app.reply := rfl

/-! The two stages of an operation -/

/-- The start of an operation, which is the same for every ringtone of the caller:
the guard lets it start, and the context of the call is resolved. -/
def start (resolver : Resolver) (thread : Thread) (call : IncomingCall) :
    Dialogue Handle (Option Context) := do
  resolver.checkThread "get_ringtone" thread
  resolver.callContext call

/-- What follows in a context: the caller's ringtone is tried before the default. -/
def choose (context : Option Context) (ringtone : Option String) (shaper : Option VolumeShaper)
    (attributes : AudioAttributes) : Dialogue Handle (Option (Selection Handle)) := do
  match ← Resolver.callerSelection context ringtone shaper attributes with
  | some selection => return some selection
  | none => Resolver.defaultSelection context shaper attributes

theorem get_ringtone_stages (resolver : Resolver) (thread : Thread) (call : IncomingCall)
    (ringtone : Option String) (shaper : Option VolumeShaper) (muted : Bool) :
    (resolver.getRingtone thread { call with ringtone } shaper muted :
        Dialogue Handle (Option (Selection Handle))) =
      start resolver thread call >>= fun context =>
        choose context ringtone shaper (AudioAttributes.ringtone muted) := by
  unfold Resolver.getRingtone start Resolver.checkThread
  cases resolver.guard.check "get_ringtone" thread <;> rfl

theorem choose_default (context : Option Context) (shaper : Option VolumeShaper)
    (attributes : AudioAttributes) :
    (choose context none shaper attributes : Dialogue Handle (Option (Selection Handle))) =
      Resolver.defaultSelection context shaper attributes := by
  cases context <;> rfl

/-! What the caller's ringtone changes -/

/-- What happens when a reference of the caller is not played, given what resolving
the context came to: it was not tried, for want of a context or of the reference
itself, or the engine was asked for it once and gave no handle. A failure of the
engine is noted once, as an error about the reference; what the engine remarks is
its own. -/
inductive VainTry (answer : Answering Handle) (shaper : Option VolumeShaper)
    (attributes : AudioAttributes) (uri : String) :
    Except Failure (Option Context) → List (Event Handle) → Prop where
  | untried (nothing : ∀ own, resolved = .ok (some own) → uri = "") :
      VainTry answer shaper attributes uri resolved []
  | unplayable (given : uri ≠ "")
      (silent : answer (.load own uri shaper attributes) = (.ok none, remarks)) :
      VainTry answer shaper attributes uri (.ok (some own))
        [.asked (.load own uri shaper attributes) (.ok none) remarks]
  | failed (given : uri ≠ "") {failure : Failure}
      (broken : answer (.load own uri shaper attributes) = (.error failure, remarks)) :
      VainTry answer shaper attributes uri (.ok (some own))
        [.asked (.load own uri shaper attributes) (.error failure) remarks,
          .noted (.soundFailed uri failure)]

/-- The reference of the caller is selected, with the handle that the engine gives
for it in the context of the call; up to then all is as without it. -/
structure Played (answer : Answering Handle) (shaper : Option VolumeShaper)
    (attributes : AudioAttributes) (uri : String) (resolved : Except Failure (Option Context))
    (plain ringing : Outcome Handle Unit (Option (Selection Handle))) (own : Context)
    (handle : Handle) : Prop where
  context : resolved = .ok (some own)
  loads : (answer (.load own uri shaper attributes)).1 = .ok (some handle)
  selected : ∃ given, ringing.result = .ok (some ⟨uri, some handle, given⟩)
  events : ∃ before remarks, before <+: plain.events ∧ ringing.events =
    before ++ [.asked (.load own uri shaper attributes) (.ok (some handle)) remarks]

/-- The reference of the caller is not played, and all is as without it but for the
vain try. -/
structure Unplayed (answer : Answering Handle) (shaper : Option VolumeShaper)
    (attributes : AudioAttributes) (uri : String) (resolved : Except Failure (Option Context))
    (plain ringing : Outcome Handle Unit (Option (Selection Handle))) : Prop where
  result : ringing.result = plain.result
  events : ∃ before attempt after, VainTry answer shaper attributes uri resolved attempt ∧
    plain.events = before ++ after ∧ ringing.events = before ++ (attempt ++ after)

/-- All replies in the events are those that the parts always give. -/
def Answers (answer : Answering Handle) (events : List (Event Handle)) : Prop :=
  ∀ request reply remarks, .asked request reply remarks ∈ events → answer request = (reply, remarks)

theorem hold_answers (answer : Answering Handle) (dialogue : Dialogue Handle α) :
    Answers answer (dialogue.hold (answering answer) ()).events := by
  induction dialogue with
  | finish result =>
    intro _ _ _ member
    cases member
  | note notice rest ih =>
    intro request reply remarks member
    cases member with
    | tail _ later => exact ih request reply remarks later
  | ask asked next ih =>
    intro request reply remarks member
    cases member with
    | head => rfl
    | tail _ later => exact ih _ request reply remarks later

theorem selected_try {selection : Selection Handle} (answers : Answers answer events)
    (ran : CallerRun shaper attributes context (some uri) events (some selection)) :
    ∃ own handle remarks given, context = some own ∧
      answer (.load own uri shaper attributes) = (.ok (some handle), remarks) ∧
      selection = ⟨uri, some handle, given⟩ ∧
      events = [.asked (.load own uri shaper attributes) (.ok (some handle)) remarks] := by
  cases ran with
  | played given built =>
    cases built with
    | answered handle remarks =>
      exact ⟨_, _, remarks, given, rfl, answers _ _ _ (List.mem_singleton_self _), rfl, rfl⟩

theorem vain_try {answer : Answering Handle} (answers : Answers answer events)
    (ran : CallerRun shaper attributes context (some uri) events none) :
    VainTry answer shaper attributes uri (.ok context) events := by
  cases ran with
  | untried nothing =>
    refine .untried fun own same => ?_
    cases same
    exact nothing own uri rfl rfl
  | unplayable given built =>
    cases built with
    | answered handle remarks =>
      exact .unplayable given (answers _ _ _ (List.mem_singleton_self _))
    | failed failure remarks => exact .failed given (answers _ _ _ List.mem_cons_self)

theorem choose_override (answer : Answering Handle) (context : Option Context) (uri : String)
    (shaper : Option VolumeShaper) (attributes : AudioAttributes) :
    let plain := (choose context none shaper attributes).hold (answering answer) ()
    let ringing := (choose context (some uri) shaper attributes).hold (answering answer) ()
    (∃ own handle, Played answer shaper attributes uri (.ok context) plain ringing own handle) ∨
      Unplayed answer shaper attributes uri (.ok context) plain ringing := by
  intro plain ringing
  let calling : Dialogue Handle (Option (Selection Handle)) :=
    Resolver.callerSelection context (some uri) shaper attributes
  have answers : Answers answer (calling.hold (answering answer) ()).events :=
    hold_answers answer calling
  obtain ⟨selection, ended, ran⟩ := caller_selection_run (hold_run (answering answer) () calling)
  have whole : ringing = _ := hold_bind (answering answer) () calling _
  rw [ended] at whole
  cases selection with
  | some selection =>
    obtain ⟨own, handle, remarks, given, rfl, loads, rfl, events⟩ := selected_try answers ran
    refine .inl ⟨own, handle, rfl, congrArg Prod.fst loads, ⟨given, ?_⟩, [], remarks,
      List.nil_prefix, ?_⟩
    · rw [whole]
      rfl
    · rw [whole, events]
      rfl
  | none =>
    have fallen : plain = (Resolver.defaultSelection context shaper attributes).hold
        (answering answer) () := by
      rw [← choose_default]
    refine .inr ⟨?_, [], _, plain.events, vain_try answers ran, rfl, ?_⟩
    · rw [whole, fallen]
    · rw [whole, fallen]
      rfl

/-- A ringtone of the caller is played, or else all is as without it but for one
vain try. -/
theorem caller_ringtone_overrides (resolver : Resolver) (answer : Answering Handle)
    (thread : Thread) (call : IncomingCall) (uri : String) (shaper : Option VolumeShaper)
    (muted : Bool) :
    let attributes := AudioAttributes.ringtone muted
    let resolved := ((start resolver thread call).hold (answering answer) ()).result
    let plain := (resolver.getRingtone thread { call with ringtone := none } shaper muted).hold
      (answering answer) ()
    let ringing := (resolver.getRingtone thread { call with ringtone := some uri } shaper muted).hold
      (answering answer) ()
    (∃ own handle, Played answer shaper attributes uri resolved plain ringing own handle) ∨
      Unplayed answer shaper attributes uri resolved plain ringing := by
  dsimp only
  rw [get_ringtone_stages, get_ringtone_stages, hold_bind, hold_bind]
  generalize (start resolver thread call).hold (answering answer) () = begun
  obtain ⟨result, events, state⟩ := begun
  cases result with
  | error failure =>
    exact .inr ⟨rfl, events, [], [], .untried nofun, (List.append_nil _).symm,
      (List.append_nil _).symm⟩
  | ok context =>
    refine (choose_override answer context uri shaper (AudioAttributes.ringtone muted)).imp ?_ ?_
    · rintro ⟨own, handle, same, loads, selected, before, remarks, early, happened⟩
      refine ⟨own, handle, same, loads, selected, events ++ before, remarks, ?_, ?_⟩
      · exact (List.prefix_append_right_inj events).mpr early
      · rw [List.append_assoc]
        exact congrArg (events ++ ·) happened
    · rintro ⟨same, before, attempt, after, vain, plainly, tried⟩
      refine ⟨same, events ++ before, attempt, after, vain, ?_, ?_⟩
      · rw [List.append_assoc]
        exact congrArg (events ++ ·) plainly
      · rw [List.append_assoc]
        exact congrArg (events ++ ·) tried

end CallTone.CallerOverride
