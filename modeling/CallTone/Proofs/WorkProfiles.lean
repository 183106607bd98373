import CallTone.Proofs.ProfileTally

/-! Which work profile a list of profiles names. An entry counts when it is managed and
of another user. Exactly one such entry names the profile; with none or several, and
also when the profiles cannot be listed, no context is asked for. Where the entries
stand and what stands between them makes no difference. The list and the context may
come from any parts, in any state. -/
namespace CallTone.WorkProfiles
open Dialogue ProfileTally Resolver

variable {user : UserHandle} {profiles : List ProfileInfo}

/-! The entries that count -/

/-- The entry could be the work profile of the user. -/
def Candidate (user : UserHandle) (profile : ProfileInfo) : Prop :=
  profile.managed = true ∧ profile.user ≠ user

instance (user : UserHandle) (profile : ProfileInfo) : Decidable (Candidate user profile) :=
  inferInstanceAs (Decidable (_ ∧ _))

/-- How many entries could be; one that is repeated counts each time. -/
def candidates (user : UserHandle) (profiles : List ProfileInfo) : Nat :=
  profiles.countP (Candidate user ·)

theorem managed_others_eq (user : UserHandle) (profiles : List ProfileInfo) :
    managedOthers user profiles = profiles.filter (Candidate user ·) := by
  refine List.filter_congr fun profile _ => ?_
  by_cases other : profile.user = user <;> simp [Candidate, other]

theorem managed_others_length (user : UserHandle) (profiles : List ProfileInfo) :
    (managedOthers user profiles).length = candidates user profiles := by
  rw [managed_others_eq, candidates, List.countP_eq_length_filter]

/-- A single candidate is the one that the profiles come down to. -/
theorem only_candidate (single : candidates user profiles = 1) (among : profile ∈ profiles)
    (candidate : Candidate user profile) : managedOthers user profiles = [profile] := by
  rw [← managed_others_length] at single
  obtain ⟨only, same⟩ := List.length_eq_one_iff.mp single
  have member : profile ∈ managedOthers user profiles := by
    rw [managed_others_eq]
    exact List.mem_filter.mpr ⟨among, decide_eq_true candidate⟩
  rw [same, List.mem_singleton] at member
  rw [same, member]

/-- Of several profiles only their number is noted. -/
theorem settle_several {others : List ProfileInfo} (more : 1 < others.length)
    (resolver : Resolver) (user : UserHandle) :
    (settleManaged resolver user others : Dialogue Handle (Option Context)) = do
      tell (.severalProfiles others.length user)
      return none := by
  rcases others with _ | ⟨first, _ | ⟨second, rest⟩⟩
  · cases more
  · exact absurd more (Nat.lt_irrefl 1)
  · rfl

/-- What follows does not depend on the order of the profiles. -/
theorem settle_perm {first second : List ProfileInfo} (perm : first.Perm second)
    (resolver : Resolver) (user : UserHandle) :
    (settle resolver user (.ok first) : Dialogue Handle (Option Context)) =
      settle resolver user (.ok second) := by
  have others : (managedOthers user first).Perm (managedOthers user second) := perm.filter _
  dsimp only [settle]
  generalize managedOthers user first = before at others ⊢
  generalize managedOthers user second = after at others ⊢
  rcases before with _ | ⟨profile, _ | ⟨next, rest⟩⟩
  · rw [List.nil_perm.mp others]
  · rw [← List.singleton_perm.mp others]
  · have lengths := others.length_eq
    have more : 1 < (profile :: next :: rest).length := by simp
    rw [settle_several more, settle_several (lengths ▸ more), lengths]

/-! What is asked and written -/

def creationOf : Event Handle → Option (String × Int × UserHandle)
  | .asked (.scopedContext package flags user) _ _ => some (package, flags, user)
  | _ => none

/-- The contexts that were asked for, in their order: package, flags and user. -/
def creations (events : List (Event Handle)) : List (String × Int × UserHandle) :=
  events.filterMap creationOf

def writtenBy : Event Handle → Option Notice
  | .noted notice => some notice
  | .asked .. => none

/-- The notices that the resolver itself wrote, in their order. -/
def written (events : List (Event Handle)) : List Notice := events.filterMap writtenBy

/-- What becomes of a context that was asked for: it is the result, with nothing
written; a missing package is noted; any other failure is handed on. -/
inductive Settled : Except Failure Context → Except Failure (Option Context) → List Notice → Prop
  | found (context : Context) : Settled (.ok context) (.ok (some context)) []
  | missing {failure : Failure} (absent : failure.kind = .packageNotFound) :
      Settled (.error failure) (.ok none) [.packageMissing failure]
  | raised {failure : Failure} (other : failure.kind ≠ .packageNotFound) :
      Settled (.error failure) (.error failure) []

section
variable {resolver : Resolver} {parts : Collaborators Handle σ} {state : σ}

/-- Asking for the context of a user asks nothing else. -/
theorem context_settled (resolver : Resolver) (parts : Collaborators Handle σ) (state : σ)
    (user : UserHandle) :
    let outcome := (resolver.contextForUser (some user)).hold parts state
    creations outcome.events = [(resolver.settings.packageName, 0, user)] ∧
      Settled (parts state (.scopedContext resolver.settings.packageName 0 user)).reply
        outcome.result (written outcome.events) := by
  simp only [contextForUser, attempt, bind, andThen, hold]
  cases (parts state (.scopedContext resolver.settings.packageName 0 user)).reply with
  | ok context => exact ⟨rfl, .found context⟩
  | error failure =>
    dsimp only
    split
    next absent => exact ⟨rfl, .missing absent⟩
    next other => exact ⟨rfl, .raised other⟩

/-- The listing comes first, and what follows is settled by its reply. -/
theorem hold_listing (resolver : Resolver) (parts : Collaborators Handle σ) (state : σ)
    (user : UserHandle) :
    let listing := parts state (.enabledProfiles user.identifier)
    let after := (settle resolver user listing.reply).hold parts listing.state
    (resolver.workProfileContext user).hold parts state =
      ⟨after.result, .asked (.enabledProfiles user.identifier) listing.reply listing.remarks ::
        after.events, after.state⟩ := by
  rw [work_profile_context_eq]
  rfl

/-- The listing names one profile: it has exactly one candidate. -/
def NamesOne (user : UserHandle) (listing : Except Failure (List ProfileInfo)) : Prop :=
  ∃ profiles, listing = .ok profiles ∧ candidates user profiles = 1

/-- What is noted about a listing that does not name one profile. -/
def remarksOn (user : UserHandle) : Except Failure (List ProfileInfo) → List Notice
  | .error failure => [.profilesUnreadable user failure]
  | .ok profiles =>
    if 2 ≤ candidates user profiles then [.severalProfiles (candidates user profiles) user] else []

/-- When the listing names one profile, that is where its context is asked for. -/
theorem settle_one (single : candidates user profiles = 1) (among : profile ∈ profiles)
    (candidate : Candidate user profile) (resolver : Resolver) :
    (settle resolver user (.ok profiles) : Dialogue Handle (Option Context)) =
      resolver.contextForUser (some profile.user) := by
  rw [settle, only_candidate single among candidate]
  rfl

/-- When it does not, nothing more is asked. -/
theorem settle_unnamed {listing : Except Failure (List ProfileInfo)}
    (unnamed : ¬ NamesOne user listing) (resolver : Resolver) (parts : Collaborators Handle σ)
    (state : σ) :
    (settle resolver user listing).hold parts state =
      ⟨.ok none, (remarksOn user listing).map .noted, state⟩ := by
  cases listing with
  | error failure => rfl
  | ok profiles =>
    have unsingle : (managedOthers user profiles).length ≠ 1 := fun single =>
      unnamed ⟨profiles, rfl, managed_others_length user profiles ▸ single⟩
    dsimp only [settle, remarksOn]
    rw [← managed_others_length]
    generalize managedOthers user profiles = others at unsingle ⊢
    rcases others with _ | ⟨first, _ | ⟨second, rest⟩⟩
    · rfl
    · exact absurd rfl unsingle
    · rw [if_pos (by simp)]
      rfl

/-! Whatever the parts answer -/

/-- How the work profile of a user is found from what the parts answer. -/
structure Counted (resolver : Resolver) (parts : Collaborators Handle σ) (state : σ)
    (user : UserHandle) (outcome : Outcome Handle σ (Option Context)) : Prop where
  /-- A context is asked for exactly when the listing names one profile. -/
  tried_iff : creations outcome.events ≠ [] ↔
    NamesOne user (parts state (.enabledProfiles user.identifier)).reply
  /-- It is asked for once, for the user of the one candidate and the resolver's package,
  and settles the result. -/
  named : ∀ profiles, (parts state (.enabledProfiles user.identifier)).reply = .ok profiles →
    candidates user profiles = 1 → ∀ profile ∈ profiles, Candidate user profile →
    creations outcome.events = [(resolver.settings.packageName, 0, profile.user)] ∧
      Settled (parts (parts state (.enabledProfiles user.identifier)).state
        (.scopedContext resolver.settings.packageName 0 profile.user)).reply
        outcome.result (written outcome.events)
  /-- In every other case there is no context. -/
  unnamed : ¬ NamesOne user (parts state (.enabledProfiles user.identifier)).reply →
    outcome.result = .ok none ∧
      written outcome.events = remarksOn user (parts state (.enabledProfiles user.identifier)).reply
  /-- Something is written at the level for finding faults exactly when there are two or
  more candidates. -/
  debug_iff : (∃ notice ∈ written outcome.events, notice.level = LogLevel.debug) ↔
    ∃ profiles, (parts state (.enabledProfiles user.identifier)).reply = .ok profiles ∧
      2 ≤ candidates user profiles

theorem settled_level (settled : Settled reply result notices) :
    ∀ notice ∈ notices, notice.level ≠ LogLevel.debug := by
  cases settled with
  | found context => exact nofun
  | missing absent => simp [Notice.level, LogLevel.warning, LogLevel.debug]
  | raised other => exact nofun

theorem remarks_level (user : UserHandle) (listing : Except Failure (List ProfileInfo)) :
    (∃ notice ∈ remarksOn user listing, notice.level = LogLevel.debug) ↔
      ∃ profiles, listing = .ok profiles ∧ 2 ≤ candidates user profiles := by
  cases listing with
  | error failure => simp [remarksOn, Notice.level, LogLevel.error, LogLevel.debug]
  | ok profiles => by_cases several : 2 ≤ candidates user profiles <;>
      simp [remarksOn, several, Notice.level]

theorem written_remarks (notices : List Notice) :
    written (notices.map .noted : List (Event Handle)) = notices := by
  induction notices with
  | nil => rfl
  | cons notice rest ih => exact congrArg (notice :: ·) ih

theorem creations_remarks (notices : List Notice) :
    creations (notices.map .noted : List (Event Handle)) = [] := by
  induction notices with
  | nil => rfl
  | cons notice rest ih => exact ih

/-- A single candidate is one of the profiles. -/
theorem candidate_exists (single : candidates user profiles = 1) :
    ∃ profile ∈ profiles, Candidate user profile := by
  have some_counted : 0 < profiles.countP (Candidate user ·) := by
    rw [← candidates, single]
    exact Nat.one_pos
  simpa using List.countP_pos_iff.mp some_counted

/-- The parts behave as they do, but for the profiles, which are the given ones. -/
def withProfiles (parts : Collaborators Handle σ) (profiles : List ProfileInfo) :
    Collaborators Handle σ := fun state request =>
  match request with
  | .enabledProfiles userId => { parts state (.enabledProfiles userId) with reply := .ok profiles }
  | other => parts state other

/-- The context of a user does not depend on the profiles. -/
theorem context_with_profiles (resolver : Resolver) (parts : Collaborators Handle σ)
    (profiles : List ProfileInfo) (state : σ) (user : Option UserHandle) :
    (resolver.contextForUser user).hold (withProfiles parts profiles) state =
      (resolver.contextForUser user).hold parts state := by
  cases user with
  | none => rfl
  | some user =>
    simp only [contextForUser, attempt, bind, andThen, hold, withProfiles]
    cases (parts state (.scopedContext resolver.settings.packageName 0 user)).reply with
    | ok context => rfl
    | error failure =>
      dsimp only
      split <;> rfl

theorem settle_with_profiles (resolver : Resolver) (parts : Collaborators Handle σ)
    (profiles : List ProfileInfo) (state : σ) (reply : Except Failure (List ProfileInfo)) :
    (settle resolver user reply).hold (withProfiles parts profiles) state =
      (settle resolver user reply).hold parts state := by
  cases reply with
  | error failure => rfl
  | ok others =>
    dsimp only [settle]
    unfold settleManaged
    split
    · rfl
    · exact context_with_profiles ..
    · rfl

theorem work_profile_found (resolver : Resolver) (parts : Collaborators Handle σ) (state : σ)
    (user : UserHandle) :
    Counted resolver parts state user ((resolver.workProfileContext user).hold parts state) := by
  rw [hold_listing]
  by_cases one : NamesOne user (parts state (.enabledProfiles user.identifier)).reply
  · have ⟨profiles, listed, single⟩ := one
    obtain ⟨profile, among, candidate⟩ := candidate_exists single
    obtain ⟨created, settled⟩ := context_settled resolver parts
      (parts state (.enabledProfiles user.identifier)).state profile.user
    have settles : (settle resolver user (parts state (.enabledProfiles user.identifier)).reply :
        Dialogue Handle (Option Context)) = resolver.contextForUser (some profile.user) := by
      rw [listed]
      exact settle_one single among candidate resolver
    rw [settles]
    refine ⟨iff_of_true ?_ one, ?_, fun unnamed => absurd one unnamed, iff_of_false ?_ ?_⟩
    · exact fun empty => List.cons_ne_nil _ _ (created.symm.trans empty)
    · intro others relisted _ nominee member eligible
      rw [listed] at relisted
      cases relisted
      have same := (only_candidate single member eligible).symm.trans
        (only_candidate single among candidate)
      rw [List.singleton_inj.mp same]
      exact ⟨created, settled⟩
    · rintro ⟨notice, wrote, level⟩
      exact settled_level settled notice wrote level
    · rintro ⟨others, relisted, several⟩
      rw [listed] at relisted
      cases relisted
      omega
  · rw [settle_unnamed one]
    refine ⟨iff_of_false ?_ one, ?_, fun _ => ⟨rfl, written_remarks _⟩, ?_⟩
    · exact not_not_intro (creations_remarks _)
    · intro profiles listed single
      exact absurd ⟨profiles, listed, single⟩ one
    · rw [← remarks_level user (parts state (.enabledProfiles user.identifier)).reply]
      exact iff_of_eq (congrArg (fun notices => ∃ notice ∈ notices, notice.level = LogLevel.debug)
        (written_remarks _))

/-- The order of the list changes neither the result nor what is asked, noted and left
behind. -/
theorem order_irrelevant {first second : List ProfileInfo} (perm : first.Perm second)
    (resolver : Resolver) (parts : Collaborators Handle σ) (state : σ) (user : UserHandle) :
    let one := (resolver.workProfileContext user).hold (withProfiles parts first) state
    let other := (resolver.workProfileContext user).hold (withProfiles parts second) state
    one.result = other.result ∧ one.notices = other.notices ∧ one.state = other.state ∧
      creations one.events = creations other.events := by
  rw [hold_listing, hold_listing, settle_with_profiles, settle_with_profiles]
  dsimp only [withProfiles]
  rw [settle_perm perm]
  exact ⟨rfl, rfl, rfl, rfl⟩

/-- Whatever the parts answer and however often they change, the work profile of a user
is that of the one managed profile of another user among those listed, if there is
exactly one; the order of the list makes no difference. -/
theorem work_profile_counted (resolver : Resolver) (parts : Collaborators Handle σ) (state : σ)
    (user : UserHandle) :
    Counted resolver parts state user ((resolver.workProfileContext user).hold parts state) ∧
    ∀ first second : List ProfileInfo, first.Perm second →
      let one := (resolver.workProfileContext user).hold (withProfiles parts first) state
      let other := (resolver.workProfileContext user).hold (withProfiles parts second) state
      one.result = other.result ∧ one.notices = other.notices ∧ one.state = other.state ∧
        creations one.events = creations other.events :=
  ⟨work_profile_found resolver parts state user,
    fun _ _ perm => order_irrelevant perm resolver parts state user⟩

end

/-- A user who is managed, with an unmanaged and a managed profile. -/
def household : List ProfileInfo :=
  [⟨⟨0⟩, true, true, none⟩, ⟨⟨12⟩, false, true, some 0⟩, ⟨⟨10⟩, true, true, some 0⟩]

/-- Parts that give every context that they are asked for. -/
def obliging : Collaborators Unit Unit := fun _ request =>
  match request with
  | .scopedContext package _ user => ⟨.ok ⟨package, user⟩, [], ()⟩
  | .enabledProfiles _ => ⟨.ok household, [], ()⟩
  | _ => ⟨.error ⟨.runtime, "nothing else is asked"⟩, [], ()⟩

/-- The managed profile is found from either end of the list. -/
theorem household_profile_found :
    let resolver : Resolver := ⟨{}, Guard.ofMain true⟩
    let forwards := (resolver.workProfileContext ⟨0⟩).hold (withProfiles obliging household) ()
    let backwards :=
      (resolver.workProfileContext ⟨0⟩).hold (withProfiles obliging household.reverse) ()
    candidates ⟨0⟩ household = 1 ∧ household.Perm household.reverse ∧
      forwards.result = .ok (some ⟨"org.ringtone.resolver", ⟨10⟩⟩) ∧
      creations forwards.events = [("org.ringtone.resolver", 0, ⟨10⟩)] ∧
      backwards.result = forwards.result ∧ backwards.notices = forwards.notices := by
  have single : candidates ⟨0⟩ household = 1 := by decide
  have perm : household.Perm household.reverse := household.reverse_perm.symm
  obtain ⟨counted, same⟩ := work_profile_counted ⟨{}, Guard.ofMain true⟩
    (withProfiles obliging household) () ⟨0⟩
  obtain ⟨created, settled⟩ := counted.named household rfl single ⟨⟨10⟩, true, true, some 0⟩
    (by decide) (by decide)
  obtain ⟨result, notices, -⟩ := same household household.reverse perm
  refine ⟨single, perm, ?_, created, result.symm, notices.symm⟩
  cases settled
  rfl

end CallTone.WorkProfiles
