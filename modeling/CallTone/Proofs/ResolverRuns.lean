import CallTone.Proofs.DialogueRuns
import CallTone.Proofs.ProfileTally

/-! The runs of the resolver. Each part of it has a few runs, told apart by how
its requests were replied to, and every run is one of these. Their events are
listed in full, so that whatever happens in a part can be read off. -/
namespace CallTone.ResolverRuns
open Dialogue DialogueRuns

/-! The context of a call -/

/-- The runs of asking for the context of a user. -/
inductive ContextRun (package : String) :
    Option UserHandle → List (Event Handle) → Except Failure (Option Context) → Prop where
  | nobody : ContextRun package none [] (.ok none)
  | found (user : UserHandle) (context : Context) (remarks : List Notice) :
      ContextRun package (some user)
        [.asked (.scopedContext package 0 user) (.ok context) remarks] (.ok (some context))
  | missing (user : UserHandle) {failure : Failure} (absent : failure.kind = .packageNotFound)
      (remarks : List Notice) :
      ContextRun package (some user)
        [.asked (.scopedContext package 0 user) (.error failure) remarks,
          .noted (.packageMissing failure)] (.ok none)
  | raised (user : UserHandle) {failure : Failure} (other : failure.kind ≠ .packageNotFound)
      (remarks : List Notice) :
      ContextRun package (some user)
        [.asked (.scopedContext package 0 user) (.error failure) remarks] (.error failure)

/-- The runs of looking for the work profile of a user. -/
inductive ProfileRun (package : String) (user : UserHandle) :
    List (Event Handle) → Except Failure (Option Context) → Prop where
  | unlisted (failure : Failure) (remarks : List Notice) :
      ProfileRun package user
        [.asked (.enabledProfiles user.identifier) (.error failure) remarks,
          .noted (.profilesUnreadable user failure)] (.ok none)
  | nobody {profiles : List ProfileInfo} (alone : Resolver.managedOthers user profiles = [])
      (remarks : List Notice) :
      ProfileRun package user
        [.asked (.enabledProfiles user.identifier) (.ok profiles) remarks] (.ok none)
  | one {profiles : List ProfileInfo} (only : Resolver.managedOthers user profiles = [profile])
      (remarks : List Notice) (ran : ContextRun package (some profile.user) later result) :
      ProfileRun package user
        (.asked (.enabledProfiles user.identifier) (.ok profiles) remarks :: later) result
  | several {profiles : List ProfileInfo}
      (many : 2 ≤ (Resolver.managedOthers user profiles).length) (remarks : List Notice) :
      ProfileRun package user
        [.asked (.enabledProfiles user.identifier) (.ok profiles) remarks,
          .noted (.severalProfiles (Resolver.managedOthers user profiles).length user)] (.ok none)

/-- The runs of finding the context of a call. -/
inductive CallContextRun (package : String) (call : IncomingCall) :
    List (Event Handle) → Except Failure (Option Context) → Prop where
  | sessionless (work : call.isWorkContact = true) (failure : Failure) (remarks : List Notice) :
      CallContextRun package call [.asked .currentUser (.error failure) remarks] (.error failure)
  | profile (work : call.isWorkContact = true) (user : UserHandle) (remarks : List Notice)
      (ran : ProfileRun package user later result) :
      CallContextRun package call (.asked .currentUser (.ok user) remarks :: later) result
  | associated (personal : call.isWorkContact = false)
      (ran : ContextRun package call.associatedUser events result) :
      CallContextRun package call events result

theorem context_for_user_run (resolver : Resolver) {events : List (Event Handle)}
    (ran : Run (resolver.contextForUser user) events result) :
    ContextRun resolver.settings.packageName user events result := by
  cases user with
  | none =>
    obtain ⟨rfl, rfl⟩ := run_pure ran
    exact .nobody
  | some user =>
    obtain ⟨reply, remarks, rest, rfl, after⟩ := run_attempt ran
    cases reply with
    | ok context =>
      obtain ⟨rfl, rfl⟩ := run_pure after
      exact .found user context remarks
    | error failure =>
      dsimp only at after
      split at after
      next absent =>
        obtain ⟨rest, rfl, told⟩ := run_tell after
        obtain ⟨rfl, rfl⟩ := run_pure told
        exact .missing user absent remarks
      next other =>
        cases after
        exact .raised user other remarks

theorem work_profile_context_run (resolver : Resolver) {events : List (Event Handle)}
    (ran : Run (resolver.workProfileContext user) events result) :
    ProfileRun resolver.settings.packageName user events result := by
  rw [ProfileTally.work_profile_context_eq] at ran
  obtain ⟨reply, remarks, rest, rfl, after⟩ := run_attempt ran
  cases reply with
  | error failure =>
    obtain ⟨rest, rfl, told⟩ := run_tell after
    obtain ⟨rfl, rfl⟩ := run_pure told
    exact .unlisted failure remarks
  | ok profiles =>
    dsimp only [ProfileTally.settle] at after
    unfold ProfileTally.settleManaged at after
    split at after
    next alone =>
      obtain ⟨rfl, rfl⟩ := run_pure after
      exact .nobody alone remarks
    next profile only => exact .one only remarks (context_for_user_run resolver after)
    next several notNone notOne =>
      have many : 2 ≤ (Resolver.managedOthers user profiles).length := by
        rcases managed : Resolver.managedOthers user profiles with _ | ⟨first, _ | ⟨second, rest⟩⟩
        · exact absurd managed notNone
        · exact absurd managed (notOne first)
        · simp
      obtain ⟨rest, rfl, told⟩ := run_tell after
      obtain ⟨rfl, rfl⟩ := run_pure told
      exact .several many remarks

theorem call_context_run (resolver : Resolver) {events : List (Event Handle)}
    (ran : Run (resolver.callContext call) events result) :
    CallContextRun resolver.settings.packageName call events result := by
  unfold Resolver.callContext at ran
  split at ran
  next work =>
    rcases run_bind ran with ⟨failure, failed, rfl⟩ | ⟨user, first, second, rfl, asked, after⟩
    · obtain ⟨remarks, rfl⟩ := run_request failed
      exact .sessionless work failure remarks
    · obtain ⟨remarks, rfl⟩ := run_request asked
      exact .profile work user remarks (work_profile_context_run resolver after)
  next personal =>
    exact .associated (Bool.eq_false_iff.mpr personal) (context_for_user_run resolver ran)

/-! Sounds -/

/-- The runs of loading a sound, with the handle that they end with. -/
inductive BuildRun (context : Context) (uri : String) (shaper : Option VolumeShaper)
    (attributes : AudioAttributes) : List (Event Handle) → Option Handle → Prop where
  | answered (handle : Option Handle) (remarks : List Notice) :
      BuildRun context uri shaper attributes
        [.asked (.load context uri shaper attributes) (.ok handle) remarks] handle
  | failed (failure : Failure) (remarks : List Notice) :
      BuildRun context uri shaper attributes
        [.asked (.load context uri shaper attributes) (.error failure) remarks,
          .noted (.soundFailed uri failure)] none

/-- The runs of trying the caller's ringtone, with the selection that they end
with. -/
inductive CallerRun (shaper : Option VolumeShaper) (attributes : AudioAttributes) :
    Option Context → Option String → List (Event Handle) → Option (Selection Handle) → Prop where
  | untried (nothing : ∀ own uri, context = some own → ringtone = some uri → uri = "") :
      CallerRun shaper attributes context ringtone [] none
  | played (given : uri ≠ "") (ran : BuildRun context uri shaper attributes events (some handle)) :
      CallerRun shaper attributes (some context) (some uri) events
        (some ⟨uri, some handle, given⟩)
  | unplayable (given : uri ≠ "") (ran : BuildRun context uri shaper attributes events none) :
      CallerRun shaper attributes (some context) (some uri) events none

theorem build_run {events : List (Event Handle)}
    (ran : Run (Resolver.build context uri shaper attributes) events result) :
    ∃ handle, result = .ok handle ∧ BuildRun context uri shaper attributes events handle := by
  obtain ⟨reply, remarks, rest, rfl, after⟩ := run_attempt ran
  cases reply with
  | ok handle =>
    obtain ⟨rfl, rfl⟩ := run_pure after
    exact ⟨handle, rfl, .answered handle remarks⟩
  | error failure =>
    obtain ⟨rest, rfl, told⟩ := run_tell after
    obtain ⟨rfl, rfl⟩ := run_pure told
    exact ⟨none, rfl, .failed failure remarks⟩

/-- A run of loading a sound and then of what follows. Loading never fails. -/
theorem build_then_run {next : Option Handle → Dialogue Handle α}
    (ran : Run (Resolver.build context uri shaper attributes >>= next) events result) :
    ∃ handle first second, events = first ++ second ∧
      BuildRun context uri shaper attributes first handle ∧ Run (next handle) second result := by
  rcases run_bind ran with ⟨failure, failed, -⟩ | ⟨handle, first, second, split, built, after⟩
  · obtain ⟨handle, impossible, -⟩ := build_run failed
    cases impossible
  · obtain ⟨loaded, same, built⟩ := build_run built
    cases same
    exact ⟨handle, first, second, split, built, after⟩

theorem caller_selection_run {events : List (Event Handle)}
    (ran : Run (Resolver.callerSelection context ringtone shaper attributes) events result) :
    ∃ selection, result = .ok selection ∧
      CallerRun shaper attributes context ringtone events selection := by
  unfold Resolver.callerSelection at ran
  split at ran
  next own uri =>
    split at ran
    next given =>
      obtain ⟨handle, first, second, rfl, built, after⟩ := build_then_run ran
      cases handle with
      | none =>
        obtain ⟨rfl, rfl⟩ := run_pure after
        rw [List.append_nil]
        exact ⟨none, rfl, .unplayable given built⟩
      | some handle =>
        obtain ⟨rfl, rfl⟩ := run_pure after
        rw [List.append_nil]
        exact ⟨_, rfl, .played given built⟩
    next empty =>
      obtain ⟨rfl, rfl⟩ := run_pure ran
      refine ⟨none, rfl, .untried fun _ _ _ same => ?_⟩
      cases same
      exact Decidable.not_not.mp empty
  next missing =>
    obtain ⟨rfl, rfl⟩ := run_pure ran
    exact ⟨none, rfl, .untried fun own uri here named => (missing own uri here named).elim⟩

/-! The default -/

/-- The runs of finding out whether the user of a context has a default. -/
inductive OwnDefaultRun : Option Context → List (Event Handle) → Bool → Prop where
  | contextless : OwnDefaultRun none [] false
  | chosen (context : Context) {value : String} (given : value ≠ "") (remarks : List Notice) :
      OwnDefaultRun (some context)
        [.asked (.stringFor context SoundKind.ringtone.settingKey context.userId) (.ok value)
          remarks] true
  | unset (context : Context) (remarks : List Notice) :
      OwnDefaultRun (some context)
        [.asked (.stringFor context SoundKind.ringtone.settingKey context.userId) (.ok "")
          remarks] false
  | unreadable (context : Context) (failure : Failure) (remarks : List Notice) :
      OwnDefaultRun (some context)
        [.asked (.stringFor context SoundKind.ringtone.settingKey context.userId) (.error failure)
          remarks, .noted (.settingUnreadable context.user failure)] false

/-- The runs of choosing the context whose default is played. -/
inductive DefaultContextRun :
    Option Context → List (Event Handle) → Except Failure Context → Prop where
  | own (context : Context) (ran : OwnDefaultRun (some context) events true) :
      DefaultContextRun (some context) events (.ok context)
  | base (ran : OwnDefaultRun resolved events false) (reply : Except Failure Context)
      (remarks : List Notice) :
      DefaultContextRun resolved (events ++ [.asked .baseContext reply remarks]) reply

/-- The runs of reading the stored default of a user who is unlocked or locked. -/
inductive StoredRun (context : Context) :
    Bool → List (Event Handle) → Except Failure (Option String) → Prop where
  | own (reply : Except Failure (Option String)) (remarks : List Notice) :
      StoredRun context true [.asked (.actualDefault context .ringtone) reply remarks] reply
  | systemwide (reply : Except Failure (Option String)) (remarks : List Notice) :
      StoredRun context false [.asked (.systemDefault .ringtone) reply remarks] reply

/-- The runs of reading the default of the user of a context, with the reference
that they end with. -/
inductive DefaultUriRun (context : Context) : List (Event Handle) → Option String → Prop where
  | lockUnknown (failure : Failure) (remarks : List Notice) :
      DefaultUriRun context
        [.asked (.isUnlocked context.userId) (.error failure) remarks,
          .noted (.defaultUnreadable context.user failure)] none
  | unreadable (unlocked : Bool) (remarks : List Notice) {failure : Failure}
      (read : StoredRun context unlocked events (.error failure)) :
      DefaultUriRun context
        (.asked (.isUnlocked context.userId) (.ok unlocked) remarks ::
          (events ++ [.noted (.defaultUnreadable context.user failure)])) none
  | unset (unlocked : Bool) (remarks : List Notice)
      (read : StoredRun context unlocked events (.ok none)) :
      DefaultUriRun context
        (.asked (.isUnlocked context.userId) (.ok unlocked) remarks ::
          (events ++ [.noted
            (if unlocked then .defaultUnset context.user else .systemDefaultUnset)])) none
  | stored (unlocked : Bool) (remarks : List Notice) {uri : String}
      (read : StoredRun context unlocked events (.ok (some uri))) :
      DefaultUriRun context
        (.asked (.isUnlocked context.userId) (.ok unlocked) remarks :: events) (some uri)

/-- The runs of selecting the default. -/
inductive DefaultRun (resolved : Option Context) (shaper : Option VolumeShaper)
    (attributes : AudioAttributes) :
    List (Event Handle) → Except Failure (Option (Selection Handle)) → Prop where
  | contextless {failure : Failure} (chosen : DefaultContextRun resolved events (.error failure)) :
      DefaultRun resolved shaper attributes events (.error failure)
  | nothing (chosen : DefaultContextRun resolved first (.ok context))
      (read : DefaultUriRun context second uri) (unnamed : ∀ sound, uri = some sound → sound = "") :
      DefaultRun resolved shaper attributes (first ++ second) (.ok none)
  | named (chosen : DefaultContextRun resolved first (.ok context))
      (read : DefaultUriRun context second (some uri)) (given : uri ≠ "")
      (ran : BuildRun context uri shaper attributes third handle) :
      DefaultRun resolved shaper attributes (first ++ (second ++ third))
        (.ok (some ⟨uri, handle, given⟩))

theorem own_default_run {events : List (Event Handle)}
    (ran : Run (Resolver.hasOwnDefault resolved) events result) :
    ∃ own, result = .ok own ∧ OwnDefaultRun resolved events own := by
  cases resolved with
  | none =>
    obtain ⟨rfl, rfl⟩ := run_pure ran
    exact ⟨false, rfl, .contextless⟩
  | some context =>
    obtain ⟨reply, remarks, rest, rfl, after⟩ := run_attempt ran
    cases reply with
    | ok value =>
      obtain ⟨rfl, rfl⟩ := run_pure after
      by_cases empty : value = ""
      · subst empty
        exact ⟨false, by simp, .unset context remarks⟩
      · exact ⟨true, by simp [empty], .chosen context empty remarks⟩
    | error failure =>
      obtain ⟨rest, rfl, told⟩ := run_tell after
      obtain ⟨rfl, rfl⟩ := run_pure told
      exact ⟨false, rfl, .unreadable context failure remarks⟩

theorem default_context_run {events : List (Event Handle)}
    (ran : Run (Resolver.defaultContext resolved) events result) :
    DefaultContextRun resolved events result := by
  rcases run_bind ran with ⟨failure, failed, -⟩ | ⟨answer, first, second, rfl, found, after⟩
  · obtain ⟨own, impossible, -⟩ := own_default_run failed
    cases impossible
  · obtain ⟨answer, same, own⟩ := own_default_run found
    cases same
    cases resolved with
    | none =>
      cases own
      obtain ⟨remarks, rfl⟩ := run_request after
      exact .base .contextless result remarks
    | some context =>
      cases answer with
      | true =>
        obtain ⟨rfl, rfl⟩ := run_pure after
        rw [List.append_nil]
        exact .own context own
      | false =>
        obtain ⟨remarks, rfl⟩ := run_request after
        exact .base own result remarks

theorem stored_default_run {events : List (Event Handle)}
    (ran : Run (Resolver.storedDefault context unlocked) events result) :
    ∃ reply, result = .ok reply ∧ StoredRun context unlocked events reply := by
  cases unlocked with
  | true =>
    obtain ⟨reply, remarks, rest, rfl, after⟩ := run_attempt ran
    cases after
    exact ⟨reply, rfl, .own reply remarks⟩
  | false =>
    obtain ⟨reply, remarks, rest, rfl, after⟩ := run_attempt ran
    cases after
    exact ⟨reply, rfl, .systemwide reply remarks⟩

theorem default_uri_run {events : List (Event Handle)}
    (ran : Run (Resolver.defaultUri context) events result) :
    ∃ uri, result = .ok uri ∧ DefaultUriRun context events uri := by
  obtain ⟨reply, remarks, rest, rfl, after⟩ := run_attempt ran
  cases reply with
  | error failure =>
    obtain ⟨rest, rfl, told⟩ := run_tell after
    obtain ⟨rfl, rfl⟩ := run_pure told
    exact ⟨none, rfl, .lockUnknown failure remarks⟩
  | ok unlocked =>
    rcases run_bind after with ⟨failure, failed, -⟩ | ⟨reply, first, second, rfl, read, ended⟩
    · obtain ⟨reply, impossible, -⟩ := stored_default_run failed
      cases impossible
    · obtain ⟨stored, same, read⟩ := stored_default_run read
      cases same
      rcases reply with failure | (_ | uri)
      · obtain ⟨rest, rfl, told⟩ := run_tell ended
        obtain ⟨rfl, rfl⟩ := run_pure told
        exact ⟨none, rfl, .unreadable unlocked remarks read⟩
      · obtain ⟨rest, rfl, told⟩ := run_tell ended
        obtain ⟨rfl, rfl⟩ := run_pure told
        exact ⟨none, rfl, .unset unlocked remarks read⟩
      · obtain ⟨rfl, rfl⟩ := run_pure ended
        rw [List.append_nil]
        exact ⟨some uri, rfl, .stored unlocked remarks read⟩

theorem default_selection_run {events : List (Event Handle)}
    (ran : Run (Resolver.defaultSelection resolved shaper attributes) events result) :
    DefaultRun resolved shaper attributes events result := by
  rcases run_bind ran with ⟨failure, failed, rfl⟩ | ⟨context, first, rest, rfl, choosing, after⟩
  · exact .contextless (default_context_run failed)
  have chosen := default_context_run choosing
  rcases run_bind after with ⟨failure, failed, -⟩ | ⟨stored, second, third, rfl, reading, ended⟩
  · obtain ⟨uri, impossible, -⟩ := default_uri_run failed
    cases impossible
  obtain ⟨uri, same, read⟩ := default_uri_run reading
  cases same
  cases stored with
  | none =>
    obtain ⟨rfl, rfl⟩ := run_pure ended
    rw [List.append_nil]
    exact .nothing chosen read fun _ impossible => by cases impossible
  | some uri =>
    dsimp only at ended
    split at ended
    next given =>
      obtain ⟨handle, built, rest, rfl, loaded, finished⟩ := build_then_run ended
      obtain ⟨rfl, rfl⟩ := run_pure finished
      rw [List.append_nil]
      exact .named chosen read given loaded
    next empty =>
      obtain ⟨rfl, rfl⟩ := run_pure ended
      rw [List.append_nil]
      refine .nothing chosen read fun _ same => ?_
      cases same
      exact Decidable.not_not.mp empty

/-! The operations, once the guard lets them start -/

/-- The runs of finding the sound for a call. -/
inductive RingtoneRun (package : String) (call : IncomingCall) (shaper : Option VolumeShaper)
    (attributes : AudioAttributes) :
    List (Event Handle) → Except Failure (Option (Selection Handle)) → Prop where
  | contextless {failure : Failure} (found : CallContextRun package call events (.error failure)) :
      RingtoneRun package call shaper attributes events (.error failure)
  | caller (found : CallContextRun package call first (.ok context))
      (tried : CallerRun shaper attributes context call.ringtone second (some selection)) :
      RingtoneRun package call shaper attributes (first ++ second) (.ok (some selection))
  | default (found : CallContextRun package call first (.ok context))
      (tried : CallerRun shaper attributes context call.ringtone second none)
      (ran : DefaultRun context shaper attributes third result) :
      RingtoneRun package call shaper attributes (first ++ (second ++ third)) result

/-- The runs of loading the silent sound. -/
inductive HapticRun (uri : String) :
    List (Event Handle) → Except Failure (Option Handle) → Prop where
  | contextless (failure : Failure) (remarks : List Notice) :
      HapticRun uri [.asked .baseContext (.error failure) remarks] (.error failure)
  | unplayable (context : Context) (remarks : List Notice)
      (ran : BuildRun context uri none (AudioAttributes.ringtone false) later none) :
      HapticRun uri (.asked .baseContext (.ok context) remarks :: later) (.ok none)
  | loaded (context : Context) (remarks : List Notice) {later : List (Event Handle)}
      (ran : BuildRun context uri none (AudioAttributes.ringtone false) later (some handle))
      (reply : Except Failure Handle) (further : List Notice) :
      HapticRun uri
        (.asked .baseContext (.ok context) remarks ::
          (later ++ [.asked (.setVolume handle Binary64.zero) reply further]))
        (reply.map some)

/-- A guard that lets an operation start leaves no trace in its runs. -/
theorem checked_run {resolver : Resolver} {next : Unit → Dialogue Handle α}
    (passed : resolver.guard.check operation thread = .ok ())
    (ran : Run (resolver.checkThread operation thread >>= next) events result) :
    Run (next ()) events result := by
  rw [Resolver.checkThread, passed] at ran
  exact ran

theorem get_ringtone_run {resolver : Resolver} {events : List (Event Handle)}
    (passed : resolver.guard.check "get_ringtone" thread = .ok ())
    (ran : Run (resolver.getRingtone thread call shaper muted) events result) :
    RingtoneRun resolver.settings.packageName call shaper (AudioAttributes.ringtone muted) events
      result := by
  have begun := checked_run passed ran
  rcases run_bind begun with ⟨failure, failed, rfl⟩ | ⟨context, first, rest, rfl, finding, after⟩
  · exact .contextless (call_context_run resolver failed)
  have found := call_context_run resolver finding
  rcases run_bind after with ⟨failure, failed, -⟩ | ⟨tried, second, third, rfl, calling, ended⟩
  · obtain ⟨selection, impossible, -⟩ := caller_selection_run failed
    cases impossible
  obtain ⟨selection, same, called⟩ := caller_selection_run calling
  cases same
  cases tried with
  | some selection =>
    obtain ⟨rfl, rfl⟩ := run_pure ended
    rw [List.append_nil]
    exact .caller found called
  | none => exact .default found called (default_selection_run ended)

theorem haptic_selection_run {events : List (Event Handle)}
    (ran : Run (Resolver.hapticSelection path) events result) :
    HapticRun (Uri.ofFile path) events (result.map Selection.handle) ∧
      ∀ selection, result = .ok selection → selection.uri = Uri.ofFile path := by
  rcases run_bind ran with ⟨failure, failed, rfl⟩ | ⟨context, first, rest, rfl, asked, after⟩
  · obtain ⟨remarks, rfl⟩ := run_request failed
    exact ⟨.contextless failure remarks, fun _ impossible => by cases impossible⟩
  obtain ⟨remarks, rfl⟩ := run_request asked
  obtain ⟨handle, built, rest, rfl, loaded, ended⟩ := build_then_run after
  cases handle with
  | none =>
    obtain ⟨rfl, rfl⟩ := run_pure ended
    rw [List.append_nil]
    exact ⟨.unplayable context remarks loaded, fun _ same => by cases same; rfl⟩
  | some handle =>
    rcases run_bind ended with ⟨failure, failed, rfl⟩ | ⟨silent, last, rest, rfl, silenced, finished⟩
    · obtain ⟨further, rfl⟩ := run_request failed
      exact ⟨.loaded context remarks loaded (.error failure) further,
        fun _ impossible => by cases impossible⟩
    · obtain ⟨further, rfl⟩ := run_request silenced
      obtain ⟨rfl, rfl⟩ := run_pure finished
      exact ⟨.loaded context remarks loaded (.ok silent) further, fun _ same => by cases same; rfl⟩

/-- A path that cannot be encoded ends a run before anything is asked. -/
theorem get_haptic_only_run {resolver : Resolver} {events : List (Event Handle)}
    (passed : resolver.guard.check "get_haptic_only_ringtone" thread = .ok ())
    (ran : Run (resolver.getHapticOnly thread) events result) :
    (∃ stray, resolver.settings.vibrationSoundPath.strict = .error stray ∧ events = [] ∧
      result = .error (Uri.unencodable stray)) ∨
    ∃ path, resolver.settings.vibrationSoundPath.strict = .ok path ∧
      HapticRun (Uri.ofFile path) events (result.map Selection.handle) ∧
      ∀ selection, result = .ok selection → selection.uri = Uri.ofFile path := by
  have begun := checked_run passed ran
  cases written : resolver.settings.vibrationSoundPath.strict with
  | error stray =>
    rw [written] at begun
    cases begun
    exact .inl ⟨stray, rfl, rfl, rfl⟩
  | ok path =>
    rw [written] at begun
    exact .inr ⟨path, rfl, haptic_selection_run begun⟩

end CallTone.ResolverRuns
