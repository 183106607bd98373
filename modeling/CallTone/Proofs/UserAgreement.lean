import CallTone.Report
import CallTone.Proofs.AppAnswers
import CallTone.Proofs.WorkProfiles

/-! Two applications beside each other that know the same people. Whatever a call
asks about a user is read from the settings registered under an id, apart from the
user's place among the profiles. So where two applications agree on the users that
a call asks about, they answer it alike, whoever else is registered with them. The
package that a device was wired for comes with the context of the session's user,
and nothing that is looked up in a context depends on it. -/
namespace CallTone.UserAgreement
open Dialogue AppAnswers ProfileTally WorkProfiles

variable {app other : App}

/-! Answers beside each other -/

/-- The notices are the same, and the results fail alike or have related values. -/
inductive LikeAnswers (related : α → β → Prop) : App.Answer α → App.Answer β → Prop where
  | value (like : related value mirror) (notices : List Notice) :
      LikeAnswers related ⟨.ok value, notices⟩ ⟨.ok mirror, notices⟩
  | failure (failure : Failure) (notices : List Notice) :
      LikeAnswers related ⟨.error failure, notices⟩ ⟨.error failure, notices⟩

theorem like_refl (answer : App.Answer α) : LikeAnswers Eq answer answer := by
  obtain ⟨result, notices⟩ := answer
  cases result with
  | ok value => exact .value rfl notices
  | error failure => exact .failure failure notices

theorem like_mono {answer : App.Answer α} {mirror : App.Answer β}
    (weaker : ∀ value mirror, related value mirror → further value mirror)
    (like : LikeAnswers related answer mirror) : LikeAnswers further answer mirror := by
  cases like with
  | value like notices => exact .value (weaker _ _ like) notices
  | failure failure notices => exact .failure failure notices

theorem like_of_eq {answer mirror : App.Answer α} (same : answer = mirror) :
    LikeAnswers Eq answer mirror := same ▸ like_refl answer

theorem like_eq {answer mirror : App.Answer α} (like : LikeAnswers Eq answer mirror) :
    answer = mirror := by
  cases like with
  | value same notices => rw [same]
  | failure failure notices => rfl

private theorem like_later {answer : App.Answer α} {mirror : App.Answer β} (notices : List Notice)
    (like : LikeAnswers related answer mirror) :
    LikeAnswers related ⟨answer.result, notices ++ answer.notices⟩
      ⟨mirror.result, notices ++ mirror.notices⟩ := by
  cases like with
  | value like later => exact .value like (notices ++ later)
  | failure failure later => exact .failure failure (notices ++ later)

/-- One dialogue after another goes like one after another when the first do, and
what follows them does from related values. -/
theorem like_bind {next : α → Dialogue LoadedRingtone β} {follow : γ → Dialogue LoadedRingtone δ}
    (first : LikeAnswers related (app.hold dialogue) (other.hold twin))
    (second : ∀ value mirror, related value mirror →
      LikeAnswers further (app.hold (next value)) (other.hold (follow mirror))) :
    LikeAnswers further (app.hold (dialogue >>= next)) (other.hold (twin >>= follow)) := by
  rw [hold_bind, hold_bind]
  generalize app.hold dialogue = answer at first ⊢
  generalize other.hold twin = mirror at first ⊢
  cases first with
  | value like notices => exact like_later notices (second _ _ like)
  | failure failure notices => exact .failure failure notices

/-! Agreement -/

/-- A user apart from its place among the profiles. -/
def person (user : UserSettings) : UserSettings :=
  { user with managed := false, enabled := true, parent := none }

private theorem twin_of_person {user twin : UserSettings} (alike : person twin = person user) :
    twin = { user with managed := twin.managed, enabled := twin.enabled, parent := twin.parent } := by
  obtain ⟨id, unlocked, managed, enabled, parent, packages, sounds⟩ := twin
  simp only [person, UserSettings.mk.injEq] at alike ⊢
  simp [alike]

/-- Two applications that are the same but for their users and the package of the
device, and that have the same people registered under the known ids. The user of
the session is known. -/
structure Agree (known : Int → Prop) (app other : App) : Prop where
  resolver : other.settings.resolver = app.settings.resolver
  playback : other.settings.playback = app.settings.playback
  session : other.settings.device.currentUser = app.settings.device.currentUser
  cache : other.settings.device.ringtoneCache = app.settings.device.ringtoneCache
  media : other.settings.device.media = app.settings.device.media
  guard : other.guard = app.guard
  files : other.files = app.files
  included : known app.settings.device.currentUser
  people : ∀ id, known id →
    (other.device.user? id).map person = (app.device.user? id).map person

theorem agree_refl (included : known app.settings.device.currentUser) : Agree known app app :=
  ⟨rfl, rfl, rfl, rfl, rfl, rfl, rfl, included, fun _ _ => rfl⟩

theorem agree_trans (first : Agree known app middle) (second : Agree known middle other) :
    Agree known app other where
  resolver := second.resolver.trans first.resolver
  playback := second.playback.trans first.playback
  session := second.session.trans first.session
  cache := second.cache.trans first.cache
  media := second.media.trans first.media
  guard := second.guard.trans first.guard
  files := second.files.trans first.files
  included := first.included
  people id seen := (second.people id seen).trans (first.people id seen)

/-- Two contexts of one user who is known; their packages may differ. -/
structure SameUser (known : Int → Prop) (context mirror : Context) : Prop where
  user : mirror.user = context.user
  known : known context.userId

/-- One context, if there is any, and that of a known user. -/
structure SameContext (known : Int → Prop) (context mirror : Option Context) : Prop where
  same : context = mirror
  known : ∀ own, context = some own → known own.userId

/-- Two listings that fail alike or list the same profiles, in any order. -/
inductive SameProfiles :
    Except Failure (List ProfileInfo) → Except Failure (List ProfileInfo) → Prop where
  | failed (failure : Failure) : SameProfiles (.error failure) (.error failure)
  | listed (perm : profiles.Perm others) : SameProfiles (.ok profiles) (.ok others)

theorem same_profiles_refl (listing : Except Failure (List ProfileInfo)) :
    SameProfiles listing listing := by
  cases listing with
  | ok profiles => exact .listed (.refl profiles)
  | error failure => exact .failed failure

theorem same_profiles_settle (same : SameProfiles listing mirror) (resolver : Resolver)
    (user : UserHandle) :
    (settle resolver user mirror : Dialogue LoadedRingtone (Option Context)) =
      settle resolver user listing := by
  cases same with
  | failed failure => rfl
  | listed perm => exact settle_perm perm.symm resolver user

theorem same_user_id (same : SameUser known context mirror) : mirror.userId = context.userId :=
  congrArg UserHandle.identifier same.user

section Agreement
variable {known : Int → Prop} {app other : App} (agree : Agree known app other)
include agree

/-- A known user is registered with both or with neither, and then as the same
person. -/
theorem same_person {id : Int} (seen : known id) :
    app.device.user? id = none ∧ other.device.user? id = none ∨
      ∃ user managed enabled parent, app.device.user? id = some user ∧
        other.device.user? id = some { user with managed, enabled, parent } := by
  have same := agree.people id seen
  cases found : app.device.user? id with
  | none =>
    rw [found, Option.map_none, Option.map_eq_none_iff] at same
    exact .inl ⟨rfl, same⟩
  | some user =>
    rw [found, Option.map_some] at same
    obtain ⟨twin, there, alike⟩ := Option.map_eq_some_iff.mp same
    refine .inr ⟨user, twin.managed, twin.enabled, twin.parent, rfl, ?_⟩
    rw [there, twin_of_person alike]

theorem scoped_context_agrees (package : String) (user : UserHandle)
    (seen : known user.identifier) :
    other.device.scopedContext package user = app.device.scopedContext package user := by
  unfold Device.scopedContext
  rcases same_person agree seen with ⟨absent, missing⟩ | ⟨own, _, _, _, found, there⟩
  · rw [absent, missing]
  · rw [found, there]
    rfl

theorem unlocked_agrees {id : Int} (seen : known id) :
    other.device.isUnlocked id = app.device.isUnlocked id := by
  unfold Device.isUnlocked
  rcases same_person agree seen with ⟨absent, missing⟩ | ⟨own, _, _, _, found, there⟩
  · rw [absent, missing]
  · rw [found, there]

theorem string_agrees (key : String) {id : Int} (seen : known id) :
    other.device.stringFor key id = app.device.stringFor key id := by
  unfold Device.stringFor
  rcases same_person agree seen with ⟨absent, missing⟩ | ⟨own, _, _, _, found, there⟩
  · rw [absent, missing]
  · rw [found, there]

theorem actual_default_agrees (same : SameUser known context mirror) (kind : SoundKind) :
    other.device.actualDefault mirror kind = app.device.actualDefault context kind := by
  unfold Device.actualDefault
  rw [same_user_id same, string_agrees agree kind.settingKey same.known]

theorem locate_agrees (same : SameUser known context mirror) (uri : String) :
    other.device.locate mirror uri = app.device.locate context uri := by
  have found : other.device.locateSetting = app.device.locateSetting := by
    funext sound
    unfold Device.locateSetting App.device
    rw [agree.media]
  unfold Device.locate
  rw [same_user_id same, unlocked_agrees agree same.known, found]
  cases SoundKind.ofAlias? uri with
  | none =>
    dsimp only [App.device]
    rw [agree.media]
  | some kind =>
    dsimp only
    rw [actual_default_agrees agree same]
    dsimp only [App.device]
    rw [agree.cache]

/-- Both load a reference alike, though the locator may be asked in different
packages. -/
theorem load_agrees (same : SameUser known context mirror) (uri : String)
    (shaper : Option VolumeShaper) (attributes : AudioAttributes) :
    (other.load mirror uri shaper attributes).outcome =
        (app.load context uri shaper attributes).outcome ∧
      (other.load mirror uri shaper attributes).notices =
        (app.load context uri shaper attributes).notices := by
  have opened (path : Path) (asked before : List (Context × String)) :
      (Engine.loadAt app.files uri path shaper attributes asked).outcome =
          (Engine.loadAt app.files uri path shaper attributes before).outcome ∧
        (Engine.loadAt app.files uri path shaper attributes asked).notices =
          (Engine.loadAt app.files uri path shaper attributes before).notices := by
    unfold Engine.loadAt
    cases Engine.openFile app.files uri path <;> exact ⟨rfl, rfl⟩
  unfold App.load Engine.load
  rw [agree.files, locate_agrees agree same, same_user_id same]
  cases Engine.target uri with
  | error failure => exact ⟨rfl, rfl⟩
  | ok named =>
    cases named with
    | some path => exact ⟨rfl, rfl⟩
    | none =>
      dsimp only
      cases app.device.locate context uri with
      | none => exact ⟨rfl, rfl⟩
      | some path => exact opened path ..

/-! Dialogues -/

theorem resolver_agrees : other.resolver = app.resolver := by
  unfold App.resolver
  rw [agree.resolver, agree.guard]

theorem session_agrees : other.device.currentUser = app.device.currentUser :=
  congrArg UserHandle.mk agree.session

/-- The contexts of the session are its user's, who is known. -/
theorem base_agrees : SameUser known app.device.baseContext other.device.baseContext :=
  ⟨session_agrees agree, agree.included⟩

theorem base_context_agrees : LikeAnswers (SameUser known) (app.hold (request .baseContext))
    (other.hold (request .baseContext)) :=
  .value (base_agrees agree) []

theorem build_agrees (same : SameUser known context mirror) (uri : String)
    (shaper : Option VolumeShaper) (attributes : AudioAttributes) :
    LikeAnswers Eq (app.hold (Resolver.build context uri shaper attributes))
      (other.hold (Resolver.build mirror uri shaper attributes)) := by
  obtain ⟨outcome, notices⟩ := load_agrees agree same uri shaper attributes
  refine like_of_eq ?_
  rw [hold_build, hold_build, outcome, notices]

/-- The context of a known user is the same, and it is that user's. -/
theorem context_agrees (user : Option UserHandle)
    (seen : ∀ handle, user = some handle → known handle.identifier) :
    LikeAnswers (SameContext known) (app.hold (app.resolver.contextForUser user))
      (other.hold (other.resolver.contextForUser user)) := by
  rw [resolver_agrees agree]
  cases user with
  | none => exact .value ⟨rfl, fun _ impossible => by cases impossible⟩ []
  | some handle =>
    have asked : LikeAnswers (fun reply mirror => reply = mirror ∧
          ∀ own, reply = .ok own → own.user = handle)
        (app.hold (attempt (.scopedContext app.resolver.settings.packageName 0 handle)))
        (other.hold (attempt (.scopedContext app.resolver.settings.packageName 0 handle))) := by
      rw [hold_attempt, hold_attempt]
      dsimp only [App.reply]
      rw [scoped_context_agrees agree _ handle (seen handle rfl)]
      refine .value ⟨rfl, fun own found => ?_⟩ []
      rcases scoped_context_cases app.device app.resolver.settings.packageName handle with
        there | ⟨message, missing⟩
      · rw [there] at found
        cases found
        rfl
      · rw [missing] at found
        cases found
    refine like_bind asked ?_
    rintro reply _ ⟨rfl, own⟩
    cases reply with
    | ok context =>
      have user : context.user = handle := own context rfl
      refine .value ⟨rfl, fun found same => ?_⟩ []
      cases same
      rw [Context.userId, user]
      exact seen handle rfl
    | error failure =>
      dsimp only
      split
      · exact .value ⟨rfl, fun _ impossible => by cases impossible⟩ _
      · exact .failure failure []

/-- Applications that know everyone alike and list the same profiles find the same
context for the work profile of a user. -/
theorem profile_agrees (everyone : ∀ id, known id)
    (listed : ∀ id, SameProfiles (app.device.enabledProfiles id) (other.device.enabledProfiles id))
    (user : UserHandle) :
    LikeAnswers (SameContext known) (app.hold (app.resolver.workProfileContext user))
      (other.hold (other.resolver.workProfileContext user)) := by
  have asked : LikeAnswers SameProfiles (app.hold (attempt (.enabledProfiles user.identifier)))
      (other.hold (attempt (.enabledProfiles user.identifier))) := by
    rw [hold_attempt, hold_attempt]
    exact .value (listed user.identifier) []
  have nothing (notices : List Notice) : LikeAnswers (SameContext known)
      ⟨.ok none, notices⟩ ⟨.ok none, notices⟩ :=
    .value ⟨rfl, fun _ impossible => by cases impossible⟩ notices
  have settled (handle : UserHandle) := context_agrees agree (some handle) fun _ _ => everyone _
  rw [resolver_agrees agree] at settled ⊢
  rw [work_profile_context_eq]
  refine like_bind asked fun listing mirror same => ?_
  rw [same_profiles_settle same]
  cases listing with
  | error failure => exact nothing _
  | ok profiles =>
    dsimp only [settle]
    unfold settleManaged
    split
    · exact nothing []
    · exact settled _
    · exact nothing _

theorem call_context_agrees (everyone : ∀ id, known id)
    (listed : ∀ id, SameProfiles (app.device.enabledProfiles id) (other.device.enabledProfiles id))
    (call : IncomingCall) :
    LikeAnswers (SameContext known) (app.hold (app.resolver.callContext call))
      (other.hold (other.resolver.callContext call)) := by
  unfold Resolver.callContext
  split
  · have asked : LikeAnswers Eq (app.hold (request .currentUser))
        (other.hold (request .currentUser)) := by
      refine like_of_eq ?_
      rw [hold_request, hold_request]
      dsimp only [App.reply]
      rw [session_agrees agree]
    refine like_bind asked ?_
    rintro user _ rfl
    exact profile_agrees agree everyone listed user
  · exact context_agrees agree _ fun handle _ => everyone handle.identifier

theorem caller_agrees (context : Option Context)
    (seen : ∀ own, context = some own → known own.userId) (ringtone : Option String)
    (shaper : Option VolumeShaper) (attributes : AudioAttributes) :
    LikeAnswers Eq (app.hold (Resolver.callerSelection context ringtone shaper attributes))
      (other.hold (Resolver.callerSelection context ringtone shaper attributes)) := by
  unfold Resolver.callerSelection
  split
  next own uri =>
    split
    · refine like_bind (build_agrees agree ⟨rfl, seen own rfl⟩ uri shaper attributes) ?_
      rintro handle _ rfl
      cases handle <;> exact like_refl _
    · exact like_refl _
  · exact like_refl _

theorem own_default_agrees (context : Option Context)
    (seen : ∀ own, context = some own → known own.userId) :
    LikeAnswers Eq (app.hold (Resolver.hasOwnDefault context))
      (other.hold (Resolver.hasOwnDefault context)) := by
  cases context with
  | none => exact like_refl _
  | some own =>
    have asked : LikeAnswers Eq
        (app.hold (attempt (.stringFor own SoundKind.ringtone.settingKey own.userId)))
        (other.hold (attempt (.stringFor own SoundKind.ringtone.settingKey own.userId))) := by
      refine like_of_eq ?_
      rw [hold_attempt, hold_attempt]
      dsimp only [App.reply]
      rw [string_agrees agree _ (seen own rfl)]
    refine like_bind asked ?_
    rintro reply _ rfl
    cases reply <;> exact like_refl _

/-- The defaults that are played are those of one user. -/
theorem default_context_agrees (context : Option Context)
    (seen : ∀ own, context = some own → known own.userId) :
    LikeAnswers (SameUser known) (app.hold (Resolver.defaultContext context))
      (other.hold (Resolver.defaultContext context)) := by
  refine like_bind (own_default_agrees agree context seen) ?_
  rintro own _ rfl
  split
  next own => exact .value ⟨rfl, seen own rfl⟩ []
  next => exact base_context_agrees agree

theorem default_uri_agrees (same : SameUser known context mirror) :
    LikeAnswers Eq (app.hold (Resolver.defaultUri context))
      (other.hold (Resolver.defaultUri mirror)) := by
  have asked : LikeAnswers Eq (app.hold (attempt (.isUnlocked context.userId)))
      (other.hold (attempt (.isUnlocked mirror.userId))) := by
    refine like_of_eq ?_
    rw [hold_attempt, hold_attempt]
    dsimp only [App.reply]
    rw [same_user_id same, unlocked_agrees agree same.known]
  have stored (unlocked : Bool) : LikeAnswers Eq
      (app.hold (Resolver.storedDefault context unlocked))
      (other.hold (Resolver.storedDefault mirror unlocked)) := by
    refine like_of_eq ?_
    unfold Resolver.storedDefault
    cases unlocked with
    | false => rfl
    | true =>
      simp only [if_true]
      rw [hold_attempt, hold_attempt]
      dsimp only [App.reply]
      rw [actual_default_agrees agree same]
  unfold Resolver.defaultUri
  rw [same.user]
  refine like_bind asked ?_
  rintro reply _ rfl
  cases reply with
  | error failure => exact like_refl _
  | ok unlocked =>
    refine like_bind (stored unlocked) ?_
    rintro reply _ rfl
    rcases reply with failure | (_ | uri) <;> exact like_refl _

theorem default_agrees (context : Option Context)
    (seen : ∀ own, context = some own → known own.userId) (shaper : Option VolumeShaper)
    (attributes : AudioAttributes) :
    LikeAnswers Eq (app.hold (Resolver.defaultSelection context shaper attributes))
      (other.hold (Resolver.defaultSelection context shaper attributes)) := by
  refine like_bind (default_context_agrees agree context seen) fun chosen mirror same => ?_
  refine like_bind (default_uri_agrees agree same) ?_
  rintro uri _ rfl
  cases uri with
  | none => exact like_refl _
  | some uri =>
    dsimp only
    split
    · refine like_bind (build_agrees agree same uri shaper attributes) ?_
      rintro handle _ rfl
      exact like_refl _
    · exact like_refl _

/-- Two applications that agree, and that find the same known context for a call,
answer it alike. -/
theorem ringtone_agrees (call : IncomingCall)
    (found : LikeAnswers (SameContext known)
      (app.hold (app.resolver.callContext call)) (other.hold (other.resolver.callContext call)))
    (thread : Thread) (shaper : Option VolumeShaper) (muted : Bool) :
    app.hold (app.resolver.getRingtone thread call shaper muted) =
      other.hold (other.resolver.getRingtone thread call shaper muted) := by
  rw [resolver_agrees agree] at found ⊢
  refine like_eq (like_bind (like_refl _) fun _ _ _ => ?_)
  refine like_bind found ?_
  rintro context _ ⟨rfl, seen⟩
  refine like_bind (caller_agrees agree _ seen call.ringtone shaper _) ?_
  rintro selection _ rfl
  cases selection with
  | some selection => exact like_refl _
  | none => exact default_agrees agree _ seen shaper _

theorem haptic_agrees (thread : Thread) : app.getHapticOnly thread = other.getHapticOnly thread := by
  unfold App.getHapticOnly
  rw [resolver_agrees agree]
  refine like_eq (like_bind (like_refl _) fun _ _ _ => ?_)
  cases app.resolver.settings.vibrationSoundPath.strict with
  | error stray => exact like_refl _
  | ok path =>
    refine like_bind (base_context_agrees agree) fun context mirror same => ?_
    refine like_bind (build_agrees agree same _ none _) ?_
    rintro handle _ rfl
    cases handle <;> exact like_refl _

/-- The configured volume curve is part of what they agree on. -/
theorem configured_agrees (call : IncomingCall) (thread : Thread) (muted : Bool)
    (same : ∀ shaper, app.hold (app.resolver.getRingtone thread call shaper muted) =
      other.hold (other.resolver.getRingtone thread call shaper muted)) :
    app.getRingtone thread call muted = other.getRingtone thread call muted := by
  have shapers : other.volumeShaper = app.volumeShaper := by
    unfold App.volumeShaper
    rw [agree.playback]
  unfold App.getRingtone
  rw [shapers]
  cases app.volumeShaper with
  | error failure => rfl
  | ok shaper => exact same shaper

/-! Lines of the report -/

theorem package_line_agrees : other.packageLine = app.packageLine := by
  unfold App.packageLine
  rw [session_agrees agree, agree.resolver, scoped_context_agrees agree _ _ agree.included]

theorem sound_line_agrees (label uri : String) : other.soundLine label uri = app.soundLine label uri := by
  obtain ⟨outcome, notices⟩ :=
    load_agrees agree (base_agrees agree) uri none (AudioAttributes.ringtone false)
  unfold App.soundLine
  dsimp only
  rw [outcome, notices]

theorem vibration_line_agrees : other.vibrationLine = app.vibrationLine := by
  unfold App.vibrationLine
  simp only [agree.resolver, sound_line_agrees agree]

theorem default_line_agrees : other.defaultLine = app.defaultLine := by
  have unlocked : other.device.isUnlocked app.device.currentUser.identifier =
      app.device.isUnlocked app.device.currentUser.identifier :=
    unlocked_agrees agree agree.included
  unfold App.defaultLine
  rw [session_agrees agree, unlocked, actual_default_agrees agree (base_agrees agree)]
  simp only [sound_line_agrees agree]

end Agreement
end CallTone.UserAgreement
