import CallTone.Resolver.Dialogue

/-! Runs of a dialogue: what may happen while it is held. A run is a choice of
replies, with the events that they lead through and the result. Whatever parts
hold a dialogue, and whatever state they are in, they lead it through one of its
runs; so what every run has, every behaviour of the parts has. A run of one
dialogue after another splits where the first one ends. -/
namespace CallTone.DialogueRuns
open Dialogue

/-- Some replies lead the dialogue through the events to the result. -/
inductive Run : Dialogue Handle α → List (Event Handle) → Except Failure α → Prop where
  | finish (result : Except Failure α) : Run (.finish result) [] result
  | note (notice : Notice) (later : Run rest events result) :
      Run (.note notice rest) (.noted notice :: events) result
  | ask (request : Request Handle) {next : Except Failure request.Reply → Dialogue Handle α}
      (reply : Except Failure request.Reply) (remarks : List Notice)
      (later : Run (next reply) events result) :
      Run (.ask request next) (.asked request reply remarks :: events) result

/-- Holding a dialogue is one of its runs. -/
theorem hold_run (parts : Collaborators Handle σ) (state : σ) (dialogue : Dialogue Handle α) :
    Run dialogue (dialogue.hold parts state).events (dialogue.hold parts state).result := by
  induction dialogue generalizing state with
  | finish result => exact .finish result
  | note notice rest ih => exact .note notice (ih state)
  | ask request next ih =>
    exact .ask request (parts state request).reply (parts state request).remarks (ih _ _)

/-- Every reply in what holding a dialogue comes to is one that the parts give in
some state. -/
theorem held_reply (parts : Collaborators Handle σ) (state : σ) (dialogue : Dialogue Handle α)
    {request : Request Handle} {reply : Except Failure request.Reply}
    (asked : .asked request reply remarks ∈ (dialogue.hold parts state).events) :
    ∃ moment, (parts moment request).reply = reply := by
  induction dialogue generalizing state with
  | finish result => cases asked
  | note notice rest ih =>
    cases asked with
    | tail _ later => exact ih state later
  | ask first next ih =>
    cases asked with
    | head => exact ⟨state, rfl⟩
    | tail _ later => exact ih _ _ later

/-! What a run starts with -/

theorem run_pure (ran : Run (pure value : Dialogue Handle α) events result) :
    events = [] ∧ result = .ok value := by
  cases ran
  exact ⟨rfl, rfl⟩

theorem run_request {request : Request Handle} {result : Except Failure request.Reply}
    (ran : Run (Dialogue.request request) events result) :
    ∃ remarks, events = [.asked request result remarks] := by
  cases ran with
  | ask _ reply remarks later =>
    cases later
    exact ⟨remarks, rfl⟩

theorem run_attempt {request : Request Handle}
    {next : Except Failure request.Reply → Dialogue Handle α}
    (ran : Run (attempt request >>= next) events result) :
    ∃ reply remarks later, events = .asked request reply remarks :: later ∧
      Run (next reply) later result := by
  cases ran with
  | ask _ reply remarks later => exact ⟨reply, remarks, _, rfl, later⟩

theorem run_tell {next : Unit → Dialogue Handle α}
    (ran : Run (tell notice >>= next) events result) :
    ∃ later, events = .noted notice :: later ∧ Run (next ()) later result := by
  cases ran with
  | note _ later => exact ⟨_, rfl, later⟩

/-! One dialogue after another -/

/-- A run of one dialogue after another is a run of the first that fails, or a
run of the first that ends with a value and then a run of the second. -/
theorem run_bind {next : α → Dialogue Handle β} (ran : Run (dialogue >>= next) events result) :
    (∃ failure, Run dialogue events (.error failure) ∧ result = .error failure) ∨
      ∃ value first second, events = first ++ second ∧ Run dialogue first (.ok value) ∧
        Run (next value) second result := by
  change Run (dialogue.andThen next) events result at ran
  induction dialogue generalizing events with
  | finish outcome =>
    cases outcome with
    | ok value => exact .inr ⟨value, [], events, rfl, .finish _, ran⟩
    | error failure =>
      cases ran
      exact .inl ⟨failure, .finish _, rfl⟩
  | note notice rest ih =>
    cases ran with
    | note _ later =>
      rcases ih later with ⟨failure, failed, same⟩ | ⟨value, first, second, split, begun, ended⟩
      · exact .inl ⟨failure, .note notice failed, same⟩
      · exact .inr ⟨value, .noted notice :: first, second, by rw [split, List.cons_append],
          .note notice begun, ended⟩
  | ask request reply ih =>
    cases ran with
    | ask _ given remarks later =>
      rcases ih given later with
        ⟨failure, failed, same⟩ | ⟨value, first, second, split, begun, ended⟩
      · exact .inl ⟨failure, .ask request given remarks failed, same⟩
      · exact .inr ⟨value, .asked request given remarks :: first, second,
          by rw [split, List.cons_append], .ask request given remarks begun, ended⟩

/-- Holding one dialogue after another: the second is held in the state that the
first leaves, and not at all when the first fails. -/
theorem hold_bind (parts : Collaborators Handle σ) (state : σ) (dialogue : Dialogue Handle α)
    (next : α → Dialogue Handle β) :
    (dialogue >>= next).hold parts state =
      match (dialogue.hold parts state).result with
      | .error failure =>
        ⟨.error failure, (dialogue.hold parts state).events, (dialogue.hold parts state).state⟩
      | .ok value =>
        let after := (next value).hold parts (dialogue.hold parts state).state
        ⟨after.result, (dialogue.hold parts state).events ++ after.events, after.state⟩ := by
  change (dialogue.andThen next).hold parts state = _
  induction dialogue generalizing state with
  | finish outcome => cases outcome <;> rfl
  | note notice rest ih =>
    simp only [andThen, hold, ih]
    cases (rest.hold parts state).result <;> rfl
  | ask request reply ih =>
    simp only [andThen, hold, ih]
    cases ((reply (parts state request).reply).hold parts (parts state request).state).result <;>
      rfl

end CallTone.DialogueRuns
