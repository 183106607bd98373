import CallTone.Resolver

/-! The profiles of a user are gone through once, one after the other. What is kept
of them on the way is how many could be the work profile and whose the last of these
is; it never depends on the others, nor on where they stand. So the tally of a whole
list is read off the profiles that could be the work profile. -/
namespace CallTone.ProfileTally
open Dialogue Resolver

/-- The tally says how many of the profiles seen so far could be the work profile,
and whose the last of these is. -/
structure Tallies (user : UserHandle) (seen : List ProfileInfo) (tally : ManagedTally) : Prop where
  count : tally.count = (managedOthers user seen).length
  last : tally.last = (managedOthers user seen).getLast?.map ProfileInfo.user

/-- One more profile keeps the tally right. -/
theorem see_tallies (tallied : Tallies user seen tally) (profile : ProfileInfo) :
    Tallies user (seen ++ [profile]) (tally.see user profile) := by
  by_cases managed : (profile.user ≠ user && profile.managed) = true
  · have others : managedOthers user (seen ++ [profile]) =
        managedOthers user seen ++ [profile] := by
      rw [managedOthers, List.filter_append, List.filter_cons, if_pos managed]
      rfl
    rw [ManagedTally.see, if_pos managed]
    refine ⟨?_, ?_⟩
    · rw [others, List.length_append, tallied.count]
      rfl
    · rw [others, List.getLast?_concat]
      rfl
  · have others : managedOthers user (seen ++ [profile]) = managedOthers user seen := by
      rw [managedOthers, List.filter_append, List.filter_cons, if_neg managed]
      exact List.append_nil _
    rw [ManagedTally.see, if_neg managed]
    exact ⟨others ▸ tallied.count, others ▸ tallied.last⟩

/-- Going through further profiles keeps the tally right. -/
theorem fold_tallies (tallied : Tallies user seen tally) (rest : List ProfileInfo) :
    Tallies user (seen ++ rest) (rest.foldl (ManagedTally.see user) tally) := by
  induction rest generalizing seen tally with
  | nil => rwa [List.append_nil]
  | cons profile rest ih =>
    rw [List.append_cons]
    exact ih (see_tallies tallied profile)

theorem tally_managed (user : UserHandle) (profiles : List ProfileInfo) :
    Tallies user profiles (tallyManaged user profiles) := by
  have begun : Tallies user [] ⟨0, none⟩ := ⟨rfl, rfl⟩
  exact fold_tallies begun profiles

/-- What follows for the profiles that could be the work profile. -/
def settleManaged (resolver : Resolver) (user : UserHandle) :
    List ProfileInfo → Dialogue Handle (Option Context)
  | [] => return none
  | [profile] => resolver.contextForUser (some profile.user)
  | several => do
    tell (.severalProfiles several.length user)
    return none

/-- What follows when the profiles are listed or fail to be. -/
def settle (resolver : Resolver) (user : UserHandle) :
    Except Failure (List ProfileInfo) → Dialogue Handle (Option Context)
  | .error failure => do
    tell (.profilesUnreadable user failure)
    return none
  | .ok profiles => settleManaged resolver user (managedOthers user profiles)

/-- The work profile is settled by the profiles that could be it. -/
theorem work_profile_context_eq (resolver : Resolver) (user : UserHandle) :
    (resolver.workProfileContext user : Dialogue Handle (Option Context)) =
      attempt (.enabledProfiles user.identifier) >>= settle resolver user := by
  unfold workProfileContext
  congr 1
  funext reply
  cases reply with
  | error failure => rfl
  | ok profiles =>
    obtain ⟨count, last⟩ := tally_managed user profiles
    dsimp only [settle]
    rw [count, last]
    rcases managedOthers user profiles with _ | ⟨first, _ | ⟨second, rest⟩⟩
    · rfl
    · rfl
    · simp [settleManaged]

end CallTone.ProfileTally
