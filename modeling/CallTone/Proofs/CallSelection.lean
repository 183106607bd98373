import CallTone.Proofs.AppAnswers
import CallTone.Proofs.ProfileTally
import CallTone.Proofs.SettingsRule

/-! A wired application plays what the rule about its settings says. Each
decision of the resolver, held with device and engine, comes to the matching
part of the rule; the resolver's whole answer follows step by step. -/
namespace CallTone.CallSelection
open AppAnswers RegisteredUsers SettingsRule

/-- The context of the resolver's package for a user. -/
def contextOf (settings : Settings) (user : UserSettings) : Context :=
  ⟨settings.resolver.packageName, ⟨user.id⟩⟩

/-- What a selection says to the player. -/
def spoken (selection : Selection LoadedRingtone) : String × Option LoadedRingtone :=
  (selection.uri, selection.handle)

/-! The context of a call -/

private theorem has_package_iff (settings : Settings) (user : UserSettings) :
    Device.hasPackage user settings.resolver.packageName = true ↔ HasResolver settings user := by
  unfold Device.hasPackage HasResolver
  cases user.packages <;> simp

/-- A user's context is there when the user is configured and has the package. -/
theorem user_context (registered : Registered app) (user : UserHandle) :
    (app.hold (app.resolver.contextForUser (some user))).result =
      .ok (((configured? app.settings user.identifier).filter
        (HasResolver app.settings ·)).map (contextOf app.settings)) := by
  unfold Resolver.contextForUser
  rw [result_bind app (attempt_result app _), App.reply, Device.scopedContext,
    registered_user registered]
  cases found : configured? app.settings user.identifier with
  | none => rfl
  | some configured =>
    have same : configured.id = user.identifier := configured_id found
    dsimp only
    by_cases present : HasResolver app.settings configured
    · have there : Device.hasPackage configured app.resolver.settings.packageName = true :=
        (has_package_iff ..).mpr present
      rw [if_pos there, Option.filter_some, if_pos (decide_eq_true present), Option.map_some,
        contextOf, same]
      rfl
    · have absent : ¬ Device.hasPackage configured app.resolver.settings.packageName = true :=
        fun there => present ((has_package_iff ..).mp there)
      rw [if_neg absent, Option.filter_some, if_neg (by simpa using present)]
      rfl

/-- The profiles that could be a user's work profile are the work users. -/
theorem profiles_of_work_users (settings : Settings) {owner : UserSettings}
    (current : owner.id = settings.device.currentUser) :
    Resolver.managedOthers ⟨settings.device.currentUser⟩
        ((settings.device.users.filter (Device.isEnabledProfileOf owner)).map Device.profileOf) =
      (workUsers settings).map Device.profileOf := by
  rw [Resolver.managedOthers, List.filter_map, List.filter_filter, workUsers]
  congr 1
  refine List.filter_congr fun user _ => ?_
  rw [Bool.eq_iff_iff]
  simp only [Function.comp_apply, Device.profileOf, Device.isEnabledProfileOf, current]
  grind

private theorem worker_member (workers : workUsers settings = user :: rest) :
    user ∈ settings.device.users :=
  (List.mem_filter.mp (workers ▸ List.mem_cons_self)).1

private theorem profiles_reply (registered : Registered app) :
    app.device.enabledProfiles app.settings.device.currentUser =
      match configured? app.settings app.settings.device.currentUser with
      | none => .error ⟨.config, "unknown user " ++ toString app.settings.device.currentUser⟩
      | some owner => .ok
          ((app.settings.device.users.filter (Device.isEnabledProfileOf owner)).map
            Device.profileOf) := by
  rw [Device.enabledProfiles, registered_user registered]
  rfl

/-- A work contact's context is that of the work user, when there is one that
has the package. -/
theorem work_context (registered : Registered app) :
    (app.hold (app.resolver.workProfileContext ⟨app.settings.device.currentUser⟩)).result =
      .ok (((workUser? app.settings).filter (HasResolver app.settings ·)).map
        (contextOf app.settings)) := by
  rw [ProfileTally.work_profile_context_eq, result_bind app (attempt_result app _), App.reply,
    profiles_reply registered, workUser?]
  cases known : configured? app.settings app.settings.device.currentUser with
  | none => rfl
  | some owner =>
    dsimp only [ProfileTally.settle]
    rw [profiles_of_work_users app.settings (configured_id known)]
    cases workers : workUsers app.settings with
    | nil => rfl
    | cons worker rest =>
      cases rest with
      | nil =>
        have context := user_context registered ⟨worker.id⟩
        rw [configured_member registered (worker_member workers)] at context
        exact context
      | cons second others => rfl

/-- The context of a call is that of the user in whose name it is answered. -/
theorem call_context (registered : Registered app) (call : IncomingCall) :
    (app.hold (app.resolver.callContext call)).result =
      .ok ((targetUser? app.settings call).map (contextOf app.settings)) := by
  unfold Resolver.callContext targetUser?
  cases call.isWorkContact with
  | true =>
    have session : (app.hold (Dialogue.request .currentUser)).result =
        .ok ⟨app.settings.device.currentUser⟩ := request_result app .currentUser
    simp only [↓reduceIte]
    rw [result_bind app session]
    exact work_context registered
  | false =>
    simp only [Bool.false_eq_true, ↓reduceIte]
    cases call.associatedUser with
    | none => rfl
    | some user => exact user_context registered user

/-! The caller's ringtone -/

/-- The selection of the caller's ringtone is the one of the rule. -/
theorem caller_selection (registered : Registered app) (call : IncomingCall)
    (shaper : Option VolumeShaper) (attributes : AudioAttributes) :
    ∃ selection, (app.hold (Resolver.callerSelection
        ((targetUser? app.settings call).map (contextOf app.settings)) call.ringtone shaper
        attributes)).result = .ok selection ∧
      selection.map spoken = (callerSound app.settings app.files call shaper attributes).map
        fun sound => (sound.1, some sound.2) := by
  unfold Resolver.callerSelection callerSound
  cases targetUser? app.settings call with
  | none => exact ⟨none, rfl, rfl⟩
  | some user =>
    cases call.ringtone with
    | none => exact ⟨none, rfl, rfl⟩
    | some uri =>
      by_cases given : uri = ""
      · subst given
        exact ⟨none, rfl, rfl⟩
      · have built := build_result app (contextOf app.settings user) uri shaper attributes
        have own : (contextOf app.settings user).userId = user.id := rfl
        rw [load_registered registered, own] at built
        simp only [Option.map_some, dif_pos given, if_neg given]
        rw [result_bind app built]
        cases loadedFor app.settings app.files user.id uri shaper attributes with
        | none => exact ⟨none, rfl, rfl⟩
        | some handle => exact ⟨some ⟨uri, some handle, given⟩, rfl, rfl⟩

/-! The default -/

private theorem work_user_member (found : workUser? settings = some user) :
    user ∈ settings.device.users := by
  unfold workUser? at found
  split at found
  next only =>
    cases found
    exact worker_member only
  next => cases found

/-- The user in whose name a call is answered is a configured one. -/
theorem target_configured (registered : Registered app)
    (target : targetUser? app.settings call = some user) :
    configured? app.settings user.id = some user := by
  obtain ⟨found, -⟩ := Option.filter_eq_some_iff.mp target
  refine configured_member registered ?_
  split at found
  · exact work_user_member found
  · obtain ⟨associated, -, known⟩ := Option.bind_eq_some_iff.mp found
    exact List.mem_of_find?_eq_some known

/-- Whether a user has a default of its own is whether it has chosen one. -/
theorem own_default (registered : Registered app) (call : IncomingCall) :
    (app.hold (Resolver.hasOwnDefault
        ((targetUser? app.settings call).map (contextOf app.settings)))).result =
      .ok ((targetUser? app.settings call).any fun user =>
        (chosen? user .ringtone).isSome) := by
  unfold Resolver.hasOwnDefault
  cases target : targetUser? app.settings call with
  | none => rfl
  | some user =>
    have chosen : app.device.actualDefault (contextOf app.settings user) .ringtone =
        chosen? user .ringtone :=
      default_registered registered (contextOf app.settings user) .ringtone
        (target_configured registered target)
    simp only [Option.map_some, Option.any_some]
    rw [result_bind app (attempt_result app _), App.reply, ← chosen, Device.actualDefault]
    dsimp only
    rw [hold_pure]
    by_cases empty : app.device.stringFor SoundKind.ringtone.settingKey
        (contextOf app.settings user).userId = "" <;> simp [empty]

/-- The default that is played is that of the rule's user. -/
theorem default_context (registered : Registered app) (call : IncomingCall) :
    ∃ context, (app.hold (Resolver.defaultContext
        ((targetUser? app.settings call).map (contextOf app.settings)))).result = .ok context ∧
      context.userId = defaultUser app.settings call := by
  have own := own_default registered call
  have base := base_context_result app
  unfold Resolver.defaultContext defaultUser
  rw [result_bind app own]
  cases targetUser? app.settings call with
  | none => exact ⟨app.device.baseContext, base, rfl⟩
  | some user =>
    simp only [Option.map_some, Option.any_some]
    cases chosen? user .ringtone with
    | none => exact ⟨app.device.baseContext, base, rfl⟩
    | some sound => exact ⟨contextOf app.settings user, rfl, rfl⟩

/-- The default of a context's user is that of the rule. -/
theorem default_uri (registered : Registered app) (context : Context) :
    (app.hold (Resolver.defaultUri context)).result =
      .ok (defaultSound app.settings context.userId) := by
  unfold Resolver.defaultUri defaultSound
  rw [result_bind app (attempt_result app _), App.reply, unlocked_registered registered]
  cases found : unlocked? app.settings context.userId with
  | none => rfl
  | some user =>
    have stored : (app.hold (Resolver.storedDefault context true)).result =
        .ok (.ok (chosen? user .ringtone)) := by
      rw [← default_registered registered context .ringtone (unlocked_configured found)]
      exact attempt_result app _
    simp only [Option.isSome_some]
    rw [result_bind app stored]
    cases chosen? user .ringtone <;> rfl

private theorem default_given {id : Int} (found : defaultSound settings id = some sound) :
    sound ≠ "" := by
  unfold defaultSound at found
  split at found
  · simpa using (Option.filter_eq_some_iff.mp found).2
  · cases found
    decide

/-- The selection of the default is the one of the rule. -/
theorem default_selection (registered : Registered app) (call : IncomingCall)
    (shaper : Option VolumeShaper) (attributes : AudioAttributes) :
    ∃ selection, (app.hold (Resolver.defaultSelection
        ((targetUser? app.settings call).map (contextOf app.settings)) shaper
        attributes)).result = .ok selection ∧
      selection.map spoken = (defaultSound app.settings (defaultUser app.settings call)).map
        fun uri => (uri, loadedFor app.settings app.files (defaultUser app.settings call) uri shaper
          attributes) := by
  obtain ⟨context, chosen, user⟩ := default_context registered call
  have default := default_uri registered context
  unfold Resolver.defaultSelection
  rw [result_bind app chosen, result_bind app default, ← user]
  cases found : defaultSound app.settings context.userId with
  | none => exact ⟨none, rfl, rfl⟩
  | some uri =>
    have given : uri ≠ "" := default_given found
    have built := build_result app context uri shaper attributes
    rw [load_registered registered] at built
    simp only [dif_pos given]
    rw [result_bind app built]
    exact ⟨_, rfl, rfl⟩

/-! The whole answer -/

/-- Past the guard, an application whose users are registered answers a call by
the rule. -/
theorem registered_answer (registered : Registered app)
    (passed : app.guard.check "get_ringtone" thread = .ok ()) (call : IncomingCall)
    (shaper : Option VolumeShaper) (muted : Bool) :
    (app.hold (app.resolver.getRingtone thread call shaper muted)).result.map (·.map spoken) =
      .ok (soundFor app.settings app.files call shaper (AudioAttributes.ringtone muted)) := by
  obtain ⟨caller, calling, callerSame⟩ :=
    caller_selection registered call shaper (AudioAttributes.ringtone muted)
  obtain ⟨default, defaulting, defaultSame⟩ :=
    default_selection registered call shaper (AudioAttributes.ringtone muted)
  unfold Resolver.getRingtone
  rw [hold_checked app passed, result_bind app (call_context registered call),
    result_bind app calling, soundFor]
  cases caller with
  | some selection =>
    cases sound : callerSound app.settings app.files call shaper
        (AudioAttributes.ringtone muted) with
    | none => simp [sound] at callerSame
    | some found =>
      rw [sound] at callerSame
      exact congrArg Except.ok callerSame
  | none =>
    cases sound : callerSound app.settings app.files call shaper
        (AudioAttributes.ringtone muted) with
    | some found => simp [sound] at callerSame
    | none =>
      dsimp only
      rw [defaulting]
      exact congrArg Except.ok defaultSame

theorem check_passes {guard : Guard}
    (off : guard.enabled = false ∨ guard.isDispatch thread = false) (operation : String) :
    guard.check operation thread = .ok () := by
  rcases off with disabled | elsewhere
  · simp [Guard.check, disabled]
  · simp [Guard.check, elsewhere]

/-- An application that is wired from validated settings and then edited in any
way that keeps the users' ids answers every call off the guarded thread by the
rule about its settings and files of now. -/
theorem wired_answers_by_settings (valid : Settings.read home raw = .valid settings)
    (guard : Option Guard) (files : Files) (edits : List App.Edit)
    (keeps : ∀ edit ∈ edits, KeepsIds edit)
    (off : (App.wire settings guard files).guard.enabled = false ∨
      (App.wire settings guard files).guard.isDispatch thread = false)
    (call : IncomingCall) (shaper : Option VolumeShaper) (muted : Bool) :
    let app := edits.foldl App.edit (App.wire settings guard files)
    (app.hold (app.resolver.getRingtone thread call shaper muted)).result.map (·.map spoken) =
      .ok (soundFor app.settings app.files call shaper (AudioAttributes.ringtone muted)) := by
  have registered := edits_registered (wired_registered valid guard files) edits keeps
  refine registered_answer registered ?_ call shaper muted
  rw [edits_guard]
  exact check_passes off "get_ringtone"

/-- A device with a work profile, as it is written. -/
def workDevice : Value :=
  .map [(.str "device", .map [(.str "users", .list
    [.map [(.str "id", .int 0)],
      .map [(.str "id", .int 10), (.str "managed", .bool true), (.str "parent", .int 0)]])])]

/-- The work user chooses a sound and is locked, and the default is cached. -/
def lockWork : List App.Edit :=
  [.device (.user 10 (.sounds [("ringtone", "file:///work.ogg")])),
    .device (.user 10 (.unlocked false)),
    .device (.ringtoneCache (some ⟨.one, ["cache.ogg"]⟩)),
    .file "/cache.ogg" (some .noInfo)]

theorem locked_work_user_gets_alias :
    ∃ settings, Settings.read "/home/tester" workDevice = .valid settings ∧
      (∀ edit ∈ lockWork, KeepsIds edit) ∧
      (App.wire settings none []).guard.isDispatch App.worker = false ∧
      let app := lockWork.foldl App.edit (App.wire settings none [])
      (app.hold (app.resolver.getRingtone App.worker
        ⟨some "content://media/1", some .work, none⟩ none false)).result.map (·.map spoken) =
        .ok (some (SoundKind.ringtone.aliasUri,
          some ⟨SoundKind.ringtone.aliasUri, ⟨.one, ["cache.ogg"]⟩, none,
            AudioAttributes.ringtone false, none, Binary64.one⟩)) := by
  have valid : Settings.read "/home/tester" workDevice = .valid
      { device := { users := [⟨0, true, false, true, none, none, []⟩,
        ⟨10, true, true, true, some 0, none, []⟩] } } := rfl
  have keeps : ∀ edit ∈ lockWork, KeepsIds edit := by simp [lockWork, KeepsIds]
  refine ⟨_, valid, keeps, rfl, ?_⟩
  exact (wired_answers_by_settings valid none [] lockWork keeps (.inr rfl)
    ⟨some "content://media/1", some .work, none⟩ none false).trans rfl

end CallTone.CallSelection
