import CallTone.Proofs.RegisteredUsers
import CallTone.Proofs.UserAgreement

/-! Personal and work calls keep apart. A personal call is answered from what is
registered of the call's user and of the session's, and of those not from their
place among the profiles; a work call is answered from the session's profiles, and
not from the user that it is associated with. -/
namespace CallTone.CallIsolation
open RegisteredUsers UserAgreement

/-- The call or the session names the user with the id. -/
def Named (settings : Settings) (call : IncomingCall) (id : Int) : Prop :=
  call.associatedUser = some ⟨id⟩ ∨ id = settings.device.currentUser

instance : DecidablePred (Named settings call) :=
  fun id => inferInstanceAs (Decidable (call.associatedUser = some ⟨id⟩ ∨ _))

/-- Both calls are answered alike, the first by the one application and the second
by the other: with the same result and the same notices, on every thread, with
every volume curve and with the configured one. -/
structure SameRinging (app other : App) (call twin : IncomingCall) : Prop where
  ringtone : ∀ thread shaper muted,
    app.hold (app.resolver.getRingtone thread call shaper muted) =
      other.hold (other.resolver.getRingtone thread twin shaper muted)
  configured : ∀ thread muted,
    app.getRingtone thread call muted = other.getRingtone thread twin muted

/-! Personal calls -/

/-- A personal call is answered alike wherever the named users are the same people. -/
theorem personal_call_alike (personal : call.isWorkContact = false)
    (agree : Agree (Named app.settings call) app other) : SameRinging app other call call := by
  have found : LikeAnswers (SameContext (Named app.settings call))
      (app.hold (app.resolver.callContext call)) (other.hold (other.resolver.callContext call)) := by
    unfold Resolver.callContext
    simp only [personal, Bool.false_eq_true, if_false]
    exact context_agrees agree call.associatedUser fun _ named => .inl named
  have same := ringtone_agrees agree call found
  exact ⟨same, fun thread muted =>
    configured_agrees agree call thread muted fun shaper => same thread shaper muted⟩

/-- The edit changes a user who is not known, or what is said of a user's place
among the profiles. -/
inductive Unconcerned (known : Int → Prop) : App.Edit → Prop where
  | unknown {id : Int} (apart : ¬ known id) (edit : UserSettings.Edit) :
      Unconcerned known (.device (.user id edit))
  | managed (id : Int) (value : Bool) : Unconcerned known (.device (.user id (.managed value)))
  | enabled (id : Int) (value : Bool) : Unconcerned known (.device (.user id (.enabled value)))
  | parent (id : Int) (value : Option Int) :
      Unconcerned known (.device (.user id (.parent value)))

private theorem lookup_edited (keys : List Int) (users : List UserSettings) (id probe : Int)
    (edit : UserSettings.Edit) :
    (keys.zip (Device.editUser keys users id edit)).lookup probe =
      if probe = id then ((keys.zip users).lookup probe).map (·.edit edit)
      else (keys.zip users).lookup probe := by
  induction keys generalizing users with
  | nil => simp
  | cons key keys ih =>
    cases users with
    | nil => simp [Device.editUser]
    | cons user rest =>
      simp only [Device.editUser]
      by_cases hit : probe = key
      · subst hit
        by_cases same : probe = id <;> simp [same]
      · have miss : (probe == key) = false := beq_eq_false_iff_ne.mpr hit
        by_cases found : key = id
        · have other : probe ≠ id := fun same => hit (same.trans found.symm)
          simp only [if_pos found, List.zip_cons_cons, List.lookup_cons, miss, if_neg other]
        · simp only [if_neg found, List.zip_cons_cons, List.lookup_cons, miss]
          exact ih rest

/-- Editing a registered user changes that user's entry and no other. -/
theorem user_edited (app : App) (id probe : Int) (edit : UserSettings.Edit) :
    (app.edit (.device (.user id edit))).device.user? probe =
      if probe = id then (app.device.user? probe).map (·.edit edit) else app.device.user? probe :=
  lookup_edited app.registered app.settings.device.users id probe edit

theorem edit_agrees (included : known app.settings.device.currentUser)
    (apart : Unconcerned known edit) : Agree known app (app.edit edit) := by
  -- An edit of a user changes nothing else, so only the people are left to compare.
  have agree {id : Int} {change : UserSettings.Edit}
      (kept : ∀ user, known id → person (user.edit change) = person user) :
      Agree known app (app.edit (.device (.user id change))) := by
    refine { agree_refl included with people := fun probe seen => ?_ }
    rw [user_edited]
    split
    next same =>
      subst same
      rw [Option.map_map]
      exact Option.map_congr fun user _ => kept user seen
    next => rfl
  cases apart with
  | unknown stranger edit => exact agree fun _ seen => (stranger seen).elim
  | _ => exact agree fun _ _ => rfl

/-- Edits that do not concern the known users keep the agreement, however many. -/
theorem edits_agree (included : known app.settings.device.currentUser) (edits : List App.Edit)
    (apart : ∀ edit ∈ edits, Unconcerned known edit) :
    Agree known app (edits.foldl App.edit app) := by
  induction edits generalizing app with
  | nil => exact agree_refl included
  | cons edit rest ih =>
    have step : Agree known app (app.edit edit) := edit_agrees included (apart edit (by simp))
    have session : known (app.edit edit).settings.device.currentUser := by
      rw [step.session]
      exact included
    exact agree_trans step (ih session fun later member => apart later (by simp [member]))

/-! Other users -/

/-- The settings with other users of the device. -/
def withUsers (settings : Settings) (users : List UserSettings) : Settings :=
  { settings with device := { settings.device with users } }

/-- The people among the users that are named. -/
def namedPeople (settings : Settings) (call : IncomingCall) (users : List UserSettings) :
    List UserSettings :=
  (users.filter fun user => Named settings call user.id).map person

private theorem find_named {id : Int} (named : Named settings call id) (users : List UserSettings) :
    (namedPeople settings call users).find? (fun user => user.id = id) =
      (users.find? fun user => user.id = id).map person := by
  induction users with
  | nil => rfl
  | cons user rest ih =>
    by_cases kept : Named settings call user.id
    · have step : namedPeople settings call (user :: rest) =
          person user :: namedPeople settings call rest := by simp [namedPeople, kept]
      have own : (person user).id = user.id := rfl
      rw [step, List.find?_cons, List.find?_cons, own]
      cases decide (user.id = id) with
      | true => rfl
      | false => exact ih
    · have step : namedPeople settings call (user :: rest) = namedPeople settings call rest := by
        simp [namedPeople, kept]
      have miss : user.id ≠ id := fun same => kept (same ▸ named)
      rw [step, List.find?_cons_of_neg (by simpa using miss)]
      exact ih

/-- The users beside the named ones may be added, removed or changed. -/
theorem wired_agree
    (same : namedPeople settings call users = namedPeople settings call settings.device.users)
    (guard : Option Guard) (files : Files) :
    Agree (Named settings call) (App.wire settings guard files)
      (App.wire (withUsers settings users) guard files) := by
  refine { agree_refl (.inr rfl) with people := fun id named => ?_ }
  have looked (users : List UserSettings) :
      (App.wire (withUsers settings users) guard files).device.user? id =
        users.find? fun user => user.id = id := lookup_registered users id
  have own := looked settings.device.users
  rw [looked, ← find_named named, same, find_named named, ← own]
  rfl

/-! Work calls -/

/-- The user of a work call is not asked for. -/
theorem work_call_alike (work : call.isWorkContact = true) (user : Option UserHandle) :
    SameRinging app app call { call with associatedUser := user } := by
  have contexts : (app.resolver.callContext { call with associatedUser := user } :
      Dialogue LoadedRingtone (Option Context)) = app.resolver.callContext call := by
    have still : ({ call with associatedUser := user } : IncomingCall).isWorkContact = true := work
    unfold Resolver.callContext
    rw [if_pos work, if_pos still]
  have calls (thread : Thread) (shaper : Option VolumeShaper) (muted : Bool) :
      (app.resolver.getRingtone thread { call with associatedUser := user } shaper muted :
        Dialogue LoadedRingtone (Option (Selection LoadedRingtone))) =
        app.resolver.getRingtone thread call shaper muted := by
    unfold Resolver.getRingtone
    rw [contexts]
  constructor
  · intro thread shaper muted
    rw [calls]
  · intro thread muted
    unfold App.getRingtone
    simp only [calls]

/-- Personal calls are answered without regard to users that neither the call nor
the session names, and to anyone's place among the profiles: the answers are the
same in all applications that agree on the named people, in particular after any
edits of other users or of profiles, and with any other users added or left out.
Work calls are answered without regard to the user of the call. -/
theorem calls_do_not_interfere :
    (∀ (app other : App) (call : IncomingCall), call.isWorkContact = false →
      Agree (Named app.settings call) app other → SameRinging app other call call) ∧
    (∀ (app : App) (call : IncomingCall) (edits : List App.Edit), call.isWorkContact = false →
      (∀ edit ∈ edits, Unconcerned (Named app.settings call) edit) →
      SameRinging app (edits.foldl App.edit app) call call) ∧
    (∀ (settings : Settings) (users : List UserSettings) (guard : Option Guard) (files : Files)
      (call : IncomingCall), call.isWorkContact = false →
      namedPeople settings call users = namedPeople settings call settings.device.users →
      SameRinging (App.wire settings guard files)
        (App.wire (withUsers settings users) guard files) call call) ∧
    ∀ (app : App) (call : IncomingCall) (user : Option UserHandle), call.isWorkContact = true →
      SameRinging app app call { call with associatedUser := user } := by
  refine ⟨?_, ?_, ?_, ?_⟩
  · intro app other call personal agree
    exact personal_call_alike personal agree
  · intro app call edits personal apart
    exact personal_call_alike personal (edits_agree (.inr rfl) edits apart)
  · intro settings users guard files call personal same
    exact personal_call_alike personal (wired_agree same guard files)
  · intro app call user work
    exact work_call_alike work user

/-- Two users with ringtones of their own, the second a work profile of the first. -/
def family : Settings :=
  { device := { users := [{ id := 0, sounds := [("ringtone", "file:///own.ogg")] },
    { id := 10, managed := true, parent := some 0,
      sounds := [("ringtone", "file:///work.ogg")] }] } }

/-- The work profile gets another ringtone and becomes an ordinary user. -/
def disowned : List App.Edit :=
  [.device (.user 10 (.sounds [("ringtone", "file:///new.ogg")])),
    .device (.user 10 (.managed false)), .device (.user 0 (.enabled false))]

/-- A personal call is answered alike with the work profile, without it, after edits
of it and with one more user; a work call is answered alike whichever user it is
for. -/
theorem work_profile_kept_apart :
    let app := App.wire family none [("/own.ogg", .noInfo)]
    let personal : IncomingCall := ⟨none, some .ordinary, some ⟨0⟩⟩
    let work : IncomingCall := ⟨none, some .work, some ⟨0⟩⟩
    let alone := App.wire (withUsers family (family.device.users.take 1)) none
      [("/own.ogg", .noInfo)]
    let crowd := family.device.users ++ [{ id := 11, managed := true, parent := some 0 }]
    personal.isWorkContact = false ∧ work.isWorkContact = true ∧
      Agree (Named family personal) app alone ∧
      (∀ edit ∈ disowned, Unconcerned (Named family personal) edit) ∧
      namedPeople family personal crowd = namedPeople family personal family.device.users ∧
      SameRinging app alone personal personal ∧
      SameRinging app (disowned.foldl App.edit app) personal personal ∧
      SameRinging app (App.wire (withUsers family crowd) none [("/own.ogg", .noInfo)]) personal
        personal ∧
      SameRinging app app work { work with associatedUser := some ⟨10⟩ } := by
  intro app personal work alone crowd
  have agree : Agree (Named family personal) app alone := wired_agree (by decide) none _
  have apart : ∀ edit ∈ disowned, Unconcerned (Named family personal) edit := by
    intro edit member
    simp only [disowned, List.mem_cons, List.not_mem_nil, or_false] at member
    rcases member with rfl | rfl | rfl
    · exact .unknown (by decide) _
    · exact .managed 10 false
    · exact .enabled 0 false
  have same : namedPeople family personal crowd =
      namedPeople family personal family.device.users := by decide
  obtain ⟨agreeing, edited, others, working⟩ := calls_do_not_interfere
  exact ⟨rfl, rfl, agree, apart, same, agreeing app alone personal rfl agree,
    edited app personal disowned rfl apart, others family crowd none _ personal rfl same,
    working app work (some ⟨10⟩) rfl⟩

end CallTone.CallIsolation
