import CallTone.Command.Run
import CallTone.Proofs.AppAnswers
import Mathlib.Data.List.Forall2

/-! The sounds of locked users. While a user is locked, all that any query shows
of the user's sounds is whether a ringtone is set. An application is compared
with its veiled form, which keeps no more of them than that; whatever is answered
alike by both cannot tell two applications with the same veiled form apart. -/
namespace CallTone.LockedSounds
open Dialogue AppAnswers

/-- The sound that a user has set for a kind; empty when there is none. -/
def setting (user : UserSettings) (kind : SoundKind) : String :=
  (user.sounds.get? kind.settingKey).getD ""

/-- What can be seen of a user. Of the sounds of a locked user, it is whether a
ringtone is set. -/
def veil (user : UserSettings) : UserSettings :=
  if user.unlocked then user
  else { user with
    sounds := if setting user .ringtone = "" then [] else [(SoundKind.ringtone.settingKey, "set")] }

/-- The application as it can be seen. -/
def veiled (app : App) : App :=
  { app with settings := { app.settings with device := { app.settings.device with
      users := app.settings.device.users.map veil } } }

/-- Two users who differ at most in the sounds that they have while locked, and not
in whether a ringtone is set. -/
structure AlikeUsers (user other : UserSettings) : Prop where
  same : other = { user with sounds := other.sounds }
  sounds : other.sounds = user.sounds ∨
    user.unlocked = false ∧ (setting user .ringtone = "" ↔ setting other .ringtone = "")

/-- Two applications that differ at most in such users. -/
structure Alike (app other : App) : Prop where
  users : List.Forall₂ AlikeUsers app.settings.device.users other.settings.device.users
  same : other = { app with settings := { app.settings with device := { app.settings.device with
    users := other.settings.device.users } } }

theorem alike_veil (alike : AlikeUsers user other) : veil user = veil other := by
  obtain ⟨same, equal | ⟨locked, set⟩⟩ := alike
  · rw [same, equal]
  · rw [same] at set ⊢
    simp only [veil, locked, set, Bool.false_eq_true, if_false]

theorem alike_users (alike : List.Forall₂ AlikeUsers users others) :
    users.map veil = others.map veil := by
  induction alike with
  | nil => rfl
  | cons first rest ih => rw [List.map_cons, List.map_cons, alike_veil first, ih]

theorem alike_veiled (alike : Alike app other) : veiled app = veiled other := by
  rw [alike.same, veiled, alike_users alike.users]
  rfl

/-! What a veil leaves -/

theorem veil_unlocked (unlocked : user.unlocked = true) : veil user = user := if_pos unlocked

theorem veil_same (user : UserSettings) : ∃ sounds, veil user = { user with sounds } := by
  by_cases unlocked : user.unlocked
  · exact ⟨user.sounds, veil_unlocked unlocked⟩
  · exact ⟨_, if_neg unlocked⟩

theorem veil_setting (user : UserSettings) :
    setting (veil user) .ringtone = "" ↔ setting user .ringtone = "" := by
  unfold veil
  split
  · rfl
  · unfold setting
    by_cases unset : (user.sounds.get? SoundKind.ringtone.settingKey).getD "" = ""
    · simp [unset]
    · simp [unset, Table.get?]

@[simp] theorem veil_id (user : UserSettings) : (veil user).id = user.id := by
  obtain ⟨sounds, same⟩ := veil_same user
  rw [same]

@[simp] theorem veil_is_unlocked (user : UserSettings) : (veil user).unlocked = user.unlocked := by
  obtain ⟨sounds, same⟩ := veil_same user
  rw [same]

theorem veil_package (user : UserSettings) (package : String) :
    Device.hasPackage (veil user) package = Device.hasPackage user package := by
  obtain ⟨sounds, same⟩ := veil_same user
  rw [same]
  rfl

theorem veil_profile (user : UserSettings) : Device.profileOf (veil user) = Device.profileOf user := by
  obtain ⟨sounds, same⟩ := veil_same user
  rw [same]
  rfl

theorem veil_enabled (owner user : UserSettings) :
    Device.isEnabledProfileOf (veil owner) (veil user) = Device.isEnabledProfileOf owner user := by
  obtain ⟨sounds, same⟩ := veil_same user
  obtain ⟨ownSounds, ownSame⟩ := veil_same owner
  rw [same, ownSame]
  rfl

/-! The device -/

theorem lookup_veiled (keys : List Int) (users : List UserSettings) (id : Int) :
    (keys.zip (users.map veil)).lookup id = ((keys.zip users).lookup id).map veil := by
  induction keys generalizing users with
  | nil => rfl
  | cons key keys ih =>
    cases users with
    | nil => rfl
    | cons user users =>
      simp only [List.map_cons, List.zip_cons_cons, List.lookup_cons]
      split
      · rfl
      · exact ih users

theorem user_veiled (app : App) (id : Int) :
    (veiled app).device.user? id = (app.device.user? id).map veil :=
  lookup_veiled app.registered app.settings.device.users id

theorem scoped_context_veiled (app : App) (package : String) (user : UserHandle) :
    (veiled app).device.scopedContext package user = app.device.scopedContext package user := by
  unfold Device.scopedContext
  rw [user_veiled]
  cases app.device.user? user.identifier with
  | none => rfl
  | some configured => simp [veil_package]

theorem enabled_profiles_veiled (app : App) (userId : Int) :
    (veiled app).device.enabledProfiles userId = app.device.enabledProfiles userId := by
  unfold Device.enabledProfiles
  rw [user_veiled]
  cases app.device.user? userId with
  | none => rfl
  | some owner =>
    have users : (veiled app).device.settings.users = app.device.settings.users.map veil := rfl
    simp [users, List.filter_map, Function.comp_def, veil_enabled, veil_profile]

theorem unlocked_veiled (app : App) (userId : Int) :
    (veiled app).device.isUnlocked userId = app.device.isUnlocked userId := by
  unfold Device.isUnlocked
  rw [user_veiled]
  cases app.device.user? userId with
  | none => rfl
  | some user => exact veil_is_unlocked user

/-- The settings of a user who is unlocked are seen as they are. -/
theorem string_for_unlocked (unlocked : app.device.isUnlocked userId = true) (key : String) :
    (veiled app).device.stringFor key userId = app.device.stringFor key userId := by
  unfold Device.isUnlocked at unlocked
  unfold Device.stringFor
  rw [user_veiled]
  cases found : app.device.user? userId with
  | none => rfl
  | some user =>
    rw [found] at unlocked
    rw [Option.map_some, veil_unlocked unlocked]

/-- Of every user it is seen whether a ringtone is set. -/
theorem string_for_empty (app : App) (userId : Int) :
    (veiled app).device.stringFor SoundKind.ringtone.settingKey userId = "" ↔
      app.device.stringFor SoundKind.ringtone.settingKey userId = "" := by
  unfold Device.stringFor
  rw [user_veiled]
  cases app.device.user? userId with
  | none => rfl
  | some user => exact veil_setting user

theorem actual_default_unlocked {context : Context}
    (unlocked : app.device.isUnlocked context.userId = true) (kind : SoundKind) :
    (veiled app).device.actualDefault context kind = app.device.actualDefault context kind := by
  unfold Device.actualDefault
  rw [string_for_unlocked unlocked]

/-- An alias leads to the sound that the user has set only while the user is
unlocked. -/
theorem locate_veiled (app : App) (context : Context) (uri : String) :
    (veiled app).device.locate context uri = app.device.locate context uri := by
  unfold Device.locate
  cases SoundKind.ofAlias? uri with
  | none => rfl
  | some kind =>
    dsimp only
    rw [unlocked_veiled]
    by_cases unlocked : app.device.isUnlocked context.userId = true
    · rw [if_pos unlocked, if_pos unlocked, actual_default_unlocked unlocked]
      rfl
    · rw [if_neg unlocked, if_neg unlocked]
      rfl

theorem load_veiled (app : App) (context : Context) (uri : String) (shaper : Option VolumeShaper)
    (attributes : AudioAttributes) :
    (veiled app).load context uri shaper attributes = app.load context uri shaper attributes := by
  have located : (veiled app).device.locate = app.device.locate :=
    funext fun context => funext (locate_veiled app context)
  unfold App.load
  rw [located]
  rfl

/-! Dialogues -/

/-- The dialogue is answered as if the sounds of locked users were veiled. -/
def Unobserving (app : App) (dialogue : Dialogue LoadedRingtone α) : Prop :=
  (veiled app).hold dialogue = app.hold dialogue

/-- The requests whose replies no veil changes. What a user has set is asked for only
while the user is unlocked. -/
def Discreet (app : App) : Request LoadedRingtone → Prop
  | .stringFor .. => False
  | .actualDefault context _ => app.device.isUnlocked context.userId = true
  | _ => True

theorem reply_veiled {request : Request LoadedRingtone} (discreet : Discreet app request) :
    (veiled app).reply request = app.reply request := by
  cases request with
  | scopedContext package flags user => simp only [App.reply, scoped_context_veiled]
  | enabledProfiles userId => simp only [App.reply, enabled_profiles_veiled]
  | isUnlocked userId => simp only [App.reply, unlocked_veiled]
  | stringFor context key userId => exact discreet.elim
  | actualDefault context kind => simp only [App.reply, actual_default_unlocked discreet]
  | load context uri shaper attributes => simp only [App.reply, load_veiled]
  | _ => rfl

theorem request_unobserving {request : Request LoadedRingtone} (discreet : Discreet app request) :
    Unobserving app (Dialogue.request request) := by
  rw [Unobserving, hold_request, hold_request, reply_veiled discreet]

theorem attempt_unobserving {request : Request LoadedRingtone} (discreet : Discreet app request) :
    Unobserving app (attempt request) := by
  rw [Unobserving, hold_attempt, hold_attempt, reply_veiled discreet]

/-- One dialogue after another; of the second, what follows the value of the first. -/
theorem unobserving_bind {next : α → Dialogue LoadedRingtone β} (first : Unobserving app dialogue)
    (second : ∀ value, (app.hold dialogue).result = .ok value → Unobserving app (next value)) :
    Unobserving app (dialogue >>= next) := by
  unfold Unobserving at *
  rw [hold_bind, hold_bind, first, AppAnswers.andThen, AppAnswers.andThen]
  cases ended : (app.hold dialogue).result with
  | ok value =>
    dsimp only
    rw [second value ended]
  | error failure => rfl

theorem context_unobserving (app : App) (user : Option UserHandle) :
    Unobserving app (app.resolver.contextForUser user) := by
  cases user with
  | none => rfl
  | some user =>
    refine unobserving_bind (attempt_unobserving trivial) fun reply _ => ?_
    cases reply with
    | ok context => rfl
    | error failure =>
      dsimp only
      split <;> rfl

theorem profile_unobserving (app : App) (user : UserHandle) :
    Unobserving app (app.resolver.workProfileContext user) := by
  refine unobserving_bind (attempt_unobserving trivial) fun reply _ => ?_
  cases reply with
  | error failure => rfl
  | ok profiles =>
    dsimp only
    split
    · exact context_unobserving app _
    · split <;> rfl

theorem call_context_unobserving (app : App) (call : IncomingCall) :
    Unobserving app (app.resolver.callContext call) := by
  unfold Resolver.callContext
  split
  · exact unobserving_bind (request_unobserving trivial) fun user _ => profile_unobserving app user
  · exact context_unobserving app call.associatedUser

theorem build_unobserving (app : App) (context : Context) (uri : String)
    (shaper : Option VolumeShaper) (attributes : AudioAttributes) :
    Unobserving app (Resolver.build context uri shaper attributes) := by
  refine unobserving_bind (attempt_unobserving trivial) fun reply _ => ?_
  cases reply <;> rfl

theorem caller_unobserving (app : App) (context : Option Context) (ringtone : Option String)
    (shaper : Option VolumeShaper) (attributes : AudioAttributes) :
    Unobserving app (Resolver.callerSelection context ringtone shaper attributes) := by
  unfold Resolver.callerSelection
  split
  · split
    · refine unobserving_bind (build_unobserving app ..) fun handle _ => ?_
      cases handle <;> rfl
    · rfl
  · rfl

/-- Whether there is a default is told by whether a ringtone is set. -/
theorem own_default_unobserving (app : App) (context : Option Context) :
    Unobserving app (Resolver.hasOwnDefault context) := by
  cases context with
  | none => rfl
  | some context =>
    have held (app : App) : app.hold (Resolver.hasOwnDefault (some context)) =
        ⟨.ok (app.device.stringFor SoundKind.ringtone.settingKey context.userId ≠ ""), []⟩ := rfl
    rw [Unobserving, held, held]
    simp only [ne_eq, string_for_empty]

theorem stored_default_unobserving (app : App) (context : Context) :
    Unobserving app (Resolver.storedDefault context (app.device.isUnlocked context.userId)) := by
  unfold Resolver.storedDefault
  split
  next unlocked => exact attempt_unobserving unlocked
  next locked => exact attempt_unobserving trivial

theorem default_uri_unobserving (app : App) (context : Context) :
    Unobserving app (Resolver.defaultUri context) := by
  refine unobserving_bind (attempt_unobserving trivial) fun reply asked => ?_
  rw [attempt_result] at asked
  cases asked
  refine unobserving_bind (stored_default_unobserving app context) fun stored _ => ?_
  rcases stored with failure | (_ | uri) <;> rfl

theorem default_context_unobserving (app : App) (context : Option Context) :
    Unobserving app (Resolver.defaultContext context) := by
  refine unobserving_bind (own_default_unobserving app context) fun own _ => ?_
  split
  · rfl
  · exact request_unobserving trivial

theorem default_unobserving (app : App) (context : Option Context) (shaper : Option VolumeShaper)
    (attributes : AudioAttributes) :
    Unobserving app (Resolver.defaultSelection context shaper attributes) := by
  refine unobserving_bind (default_context_unobserving app context) fun chosen _ => ?_
  refine unobserving_bind (default_uri_unobserving app chosen) fun uri _ => ?_
  cases uri with
  | none => rfl
  | some uri =>
    dsimp only
    split
    · exact unobserving_bind (build_unobserving app ..) fun handle _ => rfl
    · rfl

theorem ringtone_unobserving (app : App) (thread : Thread) (call : IncomingCall)
    (shaper : Option VolumeShaper) (muted : Bool) :
    Unobserving app (app.resolver.getRingtone thread call shaper muted) := by
  refine unobserving_bind rfl fun _ _ => ?_
  refine unobserving_bind (call_context_unobserving app call) fun context _ => ?_
  refine unobserving_bind (caller_unobserving app ..) fun selection _ => ?_
  cases selection with
  | some selection => rfl
  | none => exact default_unobserving app ..

theorem haptic_selection_unobserving (app : App) (path : String) :
    Unobserving app (Resolver.hapticSelection path) := by
  refine unobserving_bind (request_unobserving trivial) fun context _ => ?_
  refine unobserving_bind (build_unobserving app ..) fun handle _ => ?_
  cases handle with
  | none => rfl
  | some handle => exact unobserving_bind (request_unobserving trivial) fun _ _ => rfl

theorem haptic_unobserving (app : App) (thread : Thread) :
    Unobserving app (app.resolver.getHapticOnly thread) := by
  refine unobserving_bind rfl fun _ _ => ?_
  cases app.resolver.settings.vibrationSoundPath.strict with
  | error stray => rfl
  | ok path => exact haptic_selection_unobserving app path

/-! The health report -/

@[simp] theorem current_user_veiled (app : App) :
    (veiled app).device.currentUser = app.device.currentUser := rfl

@[simp] theorem base_context_veiled (app : App) :
    (veiled app).device.baseContext = app.device.baseContext := rfl

theorem users_line_veiled (app : App) : (veiled app).usersLine = app.usersLine := by
  simp [App.usersLine, veiled, App.device, Device.currentUser]

theorem package_line_veiled (app : App) : (veiled app).packageLine = app.packageLine := by
  unfold App.packageLine
  rw [scoped_context_veiled]
  rfl

theorem sound_line_veiled (app : App) (label uri : String) :
    (veiled app).soundLine label uri = app.soundLine label uri := by
  unfold App.soundLine
  rw [load_veiled, base_context_veiled]

theorem vibration_line_veiled (app : App) : (veiled app).vibrationLine = app.vibrationLine := by
  unfold App.vibrationLine
  simp only [sound_line_veiled]
  rfl

theorem default_line_veiled (app : App) : (veiled app).defaultLine = app.defaultLine := by
  unfold App.defaultLine
  rw [current_user_veiled, unlocked_veiled]
  split
  next unlocked =>
    have own : app.device.isUnlocked app.device.baseContext.userId = true := unlocked
    rw [base_context_veiled, actual_default_unlocked own]
    simp only [sound_line_veiled]
  next locked => rfl

theorem locked_users_veiled (app : App) : (veiled app).lockedUsers = app.lockedUsers := by
  simp [App.lockedUsers, veiled, List.filter_map, Function.comp_def]

theorem cache_lines_veiled (app : App) : (veiled app).cacheLines = app.cacheLines := by
  unfold App.cacheLines
  rw [locked_users_veiled]
  rfl

theorem report_veiled (app : App) : (veiled app).report = app.report := by
  unfold App.report
  rw [current_user_veiled, enabled_profiles_veiled, users_line_veiled, package_line_veiled,
    vibration_line_veiled, default_line_veiled, cache_lines_veiled]
  rfl

/-! Queries -/

theorem get_ringtone_veiled (app : App) (thread : Thread) (call : IncomingCall) (muted : Bool) :
    (veiled app).getRingtone thread call muted = app.getRingtone thread call muted := by
  have shapers : (veiled app).volumeShaper = app.volumeShaper := rfl
  unfold App.getRingtone
  rw [shapers]
  split
  · rfl
  · exact ringtone_unobserving app ..

theorem resolve_text_veiled (app : App) (ringtone caller : Option String) (user : Option Int)
    (muted json : Bool) :
    (veiled app).resolveText ringtone caller user muted json =
      app.resolveText ringtone caller user muted json := by
  unfold App.resolveText
  simp only [get_ringtone_veiled]
  rfl

theorem perform_veiled (app : App) (command : Command.Section) (options : Command.Options) :
    Command.perform (veiled app) command options = Command.perform app command options := by
  have resolved : Command.resolveAnswer (veiled app) options = Command.resolveAnswer app options := by
    unfold Command.resolveAnswer Command.resolveBlankUser
    simp only [resolve_text_veiled]
    rfl
  have silent : (veiled app).hapticText options.json = app.hapticText options.json := by
    unfold App.hapticText App.getHapticOnly
    exact congrArg _ (haptic_unobserving app App.worker)
  unfold Command.perform
  rw [resolved, silent, report_veiled]

/-- No query tells the applications apart: results and notices are the same, for
every call on every thread and for every command. -/
structure Indistinguishable (app other : App) : Prop where
  ringtone : ∀ thread call shaper muted,
    app.hold (app.resolver.getRingtone thread call shaper muted) =
      other.hold (other.resolver.getRingtone thread call shaper muted)
  configured : ∀ thread call muted,
    app.getRingtone thread call muted = other.getRingtone thread call muted
  haptic : ∀ thread, app.getHapticOnly thread = other.getHapticOnly thread
  profile : ∀ user, app.workProfileContext user = other.workProfileContext user
  context : ∀ user, app.contextForUser user = other.contextForUser user
  report : app.report = other.report
  commands : ∀ command options,
    Command.perform app command options = Command.perform other command options

theorem veiled_indistinguishable (app : App) : Indistinguishable (veiled app) app where
  ringtone thread call shaper muted := ringtone_unobserving app thread call shaper muted
  configured := get_ringtone_veiled app
  haptic thread := haptic_unobserving app thread
  profile user := profile_unobserving app user
  context user := context_unobserving app user
  report := report_veiled app
  commands := perform_veiled app

theorem indistinguishable_trans (first : Indistinguishable common app)
    (second : Indistinguishable common other) : Indistinguishable app other where
  ringtone _ _ _ _ := (first.ringtone ..).symm.trans (second.ringtone ..)
  configured _ _ _ := (first.configured ..).symm.trans (second.configured ..)
  haptic _ := (first.haptic _).symm.trans (second.haptic _)
  profile _ := (first.profile _).symm.trans (second.profile _)
  context _ := (first.context _).symm.trans (second.context _)
  report := first.report.symm.trans second.report
  commands _ _ := (first.commands ..).symm.trans (second.commands ..)

/-- What a locked user has set cannot be observed, but for whether a ringtone is
set. -/
theorem locked_sounds_unobservable (alike : Alike app other) : Indistinguishable app other := by
  have seen := veiled_indistinguishable app
  rw [alike_veiled alike] at seen
  exact indistinguishable_trans seen (veiled_indistinguishable other)

/-- A device whose only user is locked and has the given sounds. -/
def lockedWith (sounds : Table String String) : App :=
  App.wire { device := { users := [{ id := 0, unlocked := false, sounds }] } } none []

/-- Neither the alarm nor the choice of ringtone of a locked user is told by any
query. -/
theorem locked_alarm_unobservable :
    let app := lockedWith [("ringtone", "file:///a.wav"), ("alarm_alert", "alarm")]
    let other := lockedWith [("ringtone", "file:///b.wav")]
    app.settings ≠ other.settings ∧ Alike app other ∧ Indistinguishable app other := by
  have alike : Alike (lockedWith [("ringtone", "file:///a.wav"), ("alarm_alert", "alarm")])
      (lockedWith [("ringtone", "file:///b.wav")]) :=
    ⟨.cons ⟨rfl, .inr ⟨rfl, by decide⟩⟩ .nil, rfl⟩
  exact ⟨by decide, alike, locked_sounds_unobservable alike⟩

end CallTone.LockedSounds
