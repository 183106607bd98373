import CallTone.Description
import CallTone.Proofs.CallSelection
import CallTone.Proofs.UserAgreement
import CallTone.Proofs.VibrationSound

/-! Nothing is kept between queries. What is fixed when an application is wired, but
for its guard, never shows: as long as no edit changes an id, the register of users
is the one that wiring would make now, and the package of the device is in no
answer. So in a session of queries and edits each query is answered as by an
application that is wired for it anew. -/
namespace CallTone.FreshWiring
open AppAnswers CallSelection RegisteredUsers SettingsRule SoundPlaces UserAgreement VibrationSound

/-! Sessions -/

/-- What can be asked of an application. -/
inductive Query where
  | resolve (ringtone caller : Option String) (user : Option Int) (muted json : Bool)
  | haptic (json : Bool)
  | report
  /-- The sound for a call, with a volume curve. -/
  | ringtone (thread : Thread) (call : IncomingCall) (shaper : Option VolumeShaper) (muted : Bool)
  /-- The sound for a call, with the volume curve of the settings. -/
  | configured (thread : Thread) (call : IncomingCall) (muted : Bool)
  | silent (thread : Thread)
  | workProfile (user : UserHandle)
  | contextFor (user : Option UserHandle)

/-- What a query is answered with. -/
abbrev Query.Reply : Query → Type
  | .resolve .. | .haptic _ => String
  | .report => Report
  | .ringtone .. | .configured .. => Option (Selection LoadedRingtone)
  | .silent _ => Selection LoadedRingtone
  | .workProfile _ | .contextFor _ => Option Context

/-- The answer of an application to a query. -/
def Query.answer (app : App) : (query : Query) → App.Answer query.Reply
  | .resolve chosen caller user muted json => app.resolveText chosen caller user muted json
  | .haptic json => app.hapticText json
  | .report => app.report
  | .ringtone thread call shaper muted =>
    app.hold (app.resolver.getRingtone thread call shaper muted)
  | .configured thread call muted => app.getRingtone thread call muted
  | .silent thread => app.getHapticOnly thread
  | .workProfile user => app.workProfileContext user
  | .contextFor user => app.contextForUser user

/-- A move of a session. -/
inductive Move where
  | query (query : Query)
  | edit (edit : App.Edit)

/-- The queries of a session with their answers, in order. A query is put to what is
made of the application as it stands, and an edit changes the application. -/
def answers (asked : App → App) (app : App) : List Move → List ((query : Query) × App.Answer query.Reply)
  | [] => []
  | .query query :: rest => ⟨query, query.answer (asked app)⟩ :: answers asked app rest
  | .edit edit :: rest => answers asked (app.edit edit) rest

/-- The application wired anew, from the settings and files of now and with the
guard that it has. -/
def rewired (app : App) : App := App.wire app.settings (some app.guard) app.files

/-! One query -/

/-- Wiring anew changes nothing but the package of the device. -/
theorem rewired_package (registered : Registered app) :
    rewired app = { app with packageName := app.settings.resolver.packageName } := by
  unfold rewired App.wire
  rw [← registered.1]
  rfl

theorem rewired_agrees (registered : Registered app) : Agree (fun _ => True) app (rewired app) := by
  have agree : Agree (fun _ => True) app app := agree_refl trivial
  rw [rewired_package registered]
  exact { agree with }

theorem rewired_profiles (registered : Registered app) (userId : Int) :
    SameProfiles (app.device.enabledProfiles userId)
      ((rewired app).device.enabledProfiles userId) := by
  rw [rewired_package registered]
  exact same_profiles_refl _

/-- No line of the report tells the package of the device. -/
theorem report_rewired (registered : Registered app) : app.report = (rewired app).report := by
  have agree := rewired_agrees registered
  unfold App.report
  rw [vibration_line_agrees agree, default_line_agrees agree, rewired_package registered]
  rfl

/-- Applications that agree on everyone, and list the same profiles, answer every query
but the report alike. -/
theorem answer_agrees (agree : Agree (fun _ => True) app other)
    (listed : ∀ id, SameProfiles (app.device.enabledProfiles id) (other.device.enabledProfiles id))
    (query : Query) (unreported : query ≠ .report) : query.answer app = query.answer other := by
  have ringtone (thread : Thread) (call : IncomingCall) (shaper : Option VolumeShaper)
      (muted : Bool) : app.hold (app.resolver.getRingtone thread call shaper muted) =
        other.hold (other.resolver.getRingtone thread call shaper muted) :=
    ringtone_agrees agree call (call_context_agrees agree (fun _ => trivial) listed call) thread
      shaper muted
  have configured (thread : Thread) (call : IncomingCall) (muted : Bool) :
      app.getRingtone thread call muted = other.getRingtone thread call muted :=
    configured_agrees agree call thread muted fun shaper => ringtone thread call shaper muted
  cases query with
  | resolve chosen caller user muted json =>
    have associated : app.withUser = other.withUser := by
      unfold App.withUser
      rw [session_agrees agree]
    simp only [Query.answer, App.resolveText, configured, associated]
  | haptic json =>
    simp only [Query.answer, App.hapticText]
    rw [haptic_agrees agree]
  | report => exact absurd rfl unreported
  | ringtone thread call shaper muted => exact ringtone thread call shaper muted
  | configured thread call muted => exact configured thread call muted
  | silent thread => exact haptic_agrees agree thread
  | workProfile user =>
    have like := profile_agrees agree (fun _ => trivial) listed user
    exact like_eq (like_mono (fun _ _ => SameContext.same) like)
  | contextFor user =>
    have like := context_agrees agree user fun _ _ => trivial
    exact like_eq (like_mono (fun _ _ => SameContext.same) like)

/-- A query is answered as by an application wired anew. -/
theorem answer_rewired (registered : Registered app) (query : Query) :
    query.answer app = query.answer (rewired app) := by
  by_cases reported : query = .report
  · rw [reported]
    exact report_rewired registered
  · exact answer_agrees (rewired_agrees registered) (rewired_profiles registered) query reported

/-! Volumes -/

theorem at_volume_one {files : Files} {uri : String} {shaper : Option VolumeShaper}
    {attributes : AudioAttributes} {path : Path}
    (opened : handleAt files uri shaper attributes path = some handle) :
    handle.volume = Binary64.one := by
  obtain ⟨seconds, -, rfl⟩ := Option.map_eq_some_iff.mp opened
  rfl

/-- What is loaded for a user is at full volume. -/
theorem loaded_volume {id : Int}
    (loaded : loadedFor settings files id uri shaper attributes = some handle) :
    handle.volume = Binary64.one := by
  rw [loadedFor, loaded_handle] at loaded
  obtain ⟨path, -, opened⟩ := Option.bind_eq_some_iff.mp loaded
  exact at_volume_one opened

/-- The handle of the sound for a call is at full volume. -/
theorem sound_volume
    (chosen : soundFor settings files call shaper attributes = some (uri, some handle)) :
    handle.volume = Binary64.one := by
  unfold soundFor at chosen
  cases caller : callerSound settings files call shaper attributes with
  | some sound =>
    rw [caller] at chosen
    cases chosen
    unfold callerSound at caller
    split at caller
    · split at caller
      · cases caller
      · obtain ⟨played, loaded, same⟩ := Option.map_eq_some_iff.mp caller
        cases same
        exact loaded_volume loaded
    · cases caller
  | none =>
    rw [caller] at chosen
    obtain ⟨sound, -, same⟩ := Option.map_eq_some_iff.mp chosen
    exact loaded_volume (Prod.mk.inj same).2

/-- An answered query has its handle, if there is one, at full volume, and that of a
silent ring at no volume. -/
def AtVolume : (query : Query) → App.Answer query.Reply → Prop
  | .ringtone .., answer | .configured .., answer => ∀ selection handle,
    answer.result = .ok (some selection) → selection.handle = some handle →
      handle.volume = Binary64.one
  | .silent _, answer => ∀ selection handle,
    answer.result = .ok selection → selection.handle = some handle →
      handle.volume = Binary64.zero
  | _, _ => True

theorem ringtone_volume (registered : Registered app) (thread : Thread) (call : IncomingCall)
    (shaper : Option VolumeShaper) (muted : Bool) :
    AtVolume (.ringtone thread call shaper muted)
      (app.hold (app.resolver.getRingtone thread call shaper muted)) := by
  intro selection handle returned played
  cases checked : app.guard.check "get_ringtone" thread with
  | error failure =>
    unfold Resolver.getRingtone at returned
    rw [hold_refused app checked] at returned
    cases returned
  | ok passed =>
    have answer := registered_answer registered checked call shaper muted
    rw [returned] at answer
    have chosen : soundFor app.settings app.files call shaper (AudioAttributes.ringtone muted) =
        some (selection.uri, some handle) := by
      rw [← played]
      exact (Except.ok.inj answer).symm
    exact sound_volume chosen

theorem configured_volume (registered : Registered app) (thread : Thread) (call : IncomingCall)
    (muted : Bool) :
    AtVolume (.configured thread call muted) (app.getRingtone thread call muted) := by
  intro selection handle returned
  unfold App.getRingtone at returned
  split at returned
  · cases returned
  · exact ringtone_volume registered thread call _ muted selection handle returned

theorem silent_volume (app : App) (thread : Thread) :
    AtVolume (.silent thread) (app.getHapticOnly thread) := by
  intro selection handle returned played
  cases checked : app.guard.check "get_haptic_only_ringtone" thread with
  | error failure =>
    unfold App.getHapticOnly Resolver.getHapticOnly at returned
    rw [hold_refused app checked] at returned
    cases returned
  | ok passed =>
    obtain ⟨path, configured⟩ := returned_path checked returned
    obtain ⟨silent, result, -, handles⟩ := haptic_only_handle configured checked
    rw [returned] at result
    cases result
    rw [played] at handles
    obtain ⟨loaded, -, rfl⟩ := Option.map_eq_some_iff.mp handles.symm
    rfl

theorem answer_volume (registered : Registered app) (query : Query) :
    AtVolume query (query.answer app) := by
  cases query with
  | ringtone thread call shaper muted => exact ringtone_volume registered thread call shaper muted
  | configured thread call muted => exact configured_volume registered thread call muted
  | silent thread => exact silent_volume app thread
  | _ => trivial

/-! Whole sessions -/

theorem session_answers (registered : Registered app) (moves : List Move)
    (keeps : ∀ edit, .edit edit ∈ moves → KeepsIds edit) :
    answers id app moves = answers rewired app moves ∧
      ∀ answered ∈ answers id app moves, AtVolume answered.1 answered.2 := by
  induction moves generalizing app with
  | nil => exact ⟨rfl, by simp [answers]⟩
  | cons move rest ih =>
    have later : ∀ edit, .edit edit ∈ rest → KeepsIds edit :=
      fun edit member => keeps edit (List.mem_cons_of_mem _ member)
    cases move with
    | edit edit =>
      exact ih (edit_registered registered (keeps edit List.mem_cons_self)) later
    | query query =>
      obtain ⟨same, volumes⟩ := ih registered later
      constructor
      · rw [answers, answers, same, id, answer_rewired registered]
      · intro answered member
        rcases List.mem_cons.mp member with rfl | member
        · exact answer_volume registered query
        · exact volumes answered member

/-- In every session of queries and edits that keep the users' ids, with an
application wired from validated settings, each query is answered as by an
application that is wired anew from the settings and files of the moment; and
whatever was asked before, a ringtone comes at full volume and the sound of a
silent ring at none. -/
theorem nothing_is_cached (valid : Settings.read home raw = .valid settings)
    (guard : Option Guard) (files : Files) (moves : List Move)
    (keeps : ∀ edit, .edit edit ∈ moves → KeepsIds edit) :
    let app := App.wire settings guard files
    answers id app moves = answers rewired app moves ∧
      ∀ answered ∈ answers id app moves, AtVolume answered.1 answered.2 :=
  session_answers (wired_registered valid guard files) moves keeps

/-- A silent ring, then a work call after the package of the resolver has changed and
the work user has been given a sound, then the report. -/
def busySession : List Move :=
  [.query (.silent App.worker), .edit (.resolver (.packageName "org.other")),
    .edit (.device (.user 10 (.sounds [("ringtone", "file:///work.ogg")]))),
    .edit (.file "/work.ogg" (some .noInfo)),
    .query (.ringtone App.worker ⟨none, some .work, none⟩ none false), .query .report]

theorem busy_session_answered_afresh :
    ∃ settings, Settings.read "/home/tester" workDevice = .valid settings ∧
      (∀ edit, .edit edit ∈ busySession → KeepsIds edit) ∧
      let app := App.wire settings none []
      (answers id app busySession).length = 3 ∧
        answers id app busySession = answers rewired app busySession ∧
        ∀ answered ∈ answers id app busySession, AtVolume answered.1 answered.2 := by
  have valid : Settings.read "/home/tester" workDevice = .valid
      { device := { users := [⟨0, true, false, true, none, none, []⟩,
        ⟨10, true, true, true, some 0, none, []⟩] } } := rfl
  have keeps : ∀ edit, .edit edit ∈ busySession → KeepsIds edit := by simp [busySession, KeepsIds]
  exact ⟨_, valid, keeps, rfl, nothing_is_cached valid none [] busySession keeps⟩

end CallTone.FreshWiring
