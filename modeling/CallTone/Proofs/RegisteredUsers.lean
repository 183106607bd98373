import CallTone.App.Edit
import CallTone.Proofs.ValidatedUsers
import Mathlib.Data.List.Nodup

/-! The users of a wired application. They are registered once, under the ids
that they have then, while their settings go on changing. As long as no edit
changes an id, asking for a registered user is looking the user up in the
settings of now. -/
namespace CallTone.RegisteredUsers
open ValidatedUsers

/-- The user with an id in the settings. -/
def configured? (settings : Settings) (id : Int) : Option UserSettings :=
  settings.device.users.find? fun user => user.id = id

/-- The users are registered under their own ids, and no two have the same. -/
def Registered (app : App) : Prop :=
  app.registered = app.settings.device.users.map UserSettings.id ∧
    (app.settings.device.users.map UserSettings.id).Nodup

/-- The edit leaves every user's id as it is. -/
def KeepsIds : App.Edit → Prop
  | .device (.user id (.id value)) => value = id
  | _ => True

theorem wired_registered (valid : Settings.read home raw = .valid settings) (guard : Option Guard)
    (files : Files) : Registered (App.wire settings guard files) :=
  ⟨rfl, validated_ids valid⟩

/-- Changing a user other than in the id keeps the ids of all. -/
theorem edited_ids (users : List UserSettings) (id : Int) (edit : UserSettings.Edit)
    (keeps : KeepsIds (.device (.user id edit))) :
    (Device.editUser (users.map UserSettings.id) users id edit).map UserSettings.id =
      users.map UserSettings.id := by
  induction users with
  | nil => rfl
  | cons user rest ih =>
    simp only [List.map_cons, Device.editUser]
    by_cases found : user.id = id
    · have same : (user.edit edit).id = user.id := by
        cases edit with
        | id value => exact Eq.trans keeps found.symm
        | _ => rfl
      rw [if_pos found, List.map_cons, same]
    · rw [if_neg found, List.map_cons, ih]

theorem edit_registered (registered : Registered app) (keeps : KeepsIds edit) :
    Registered (app.edit edit) := by
  have same : (app.edit edit).settings.device.users.map UserSettings.id =
      app.settings.device.users.map UserSettings.id := by
    cases edit with
    | resolver edit => rfl
    | ramp value => rfl
    | file path entry => rfl
    | device edit =>
      cases edit with
      | user id edit =>
        simp only [App.edit, Device.editSettings, registered.1]
        exact edited_ids app.settings.device.users id edit keeps
      | media uri path => cases path <;> rfl
      | _ => rfl
  have fixed : (app.edit edit).registered = app.registered := by cases edit <;> rfl
  exact ⟨by rw [fixed, same, registered.1], by rw [same]; exact registered.2⟩

/-- The users stay registered under their own ids through every sequence of
edits that keeps the ids. -/
theorem edits_registered (registered : Registered app) (edits : List App.Edit)
    (keeps : ∀ edit ∈ edits, KeepsIds edit) : Registered (edits.foldl App.edit app) := by
  induction edits generalizing app with
  | nil => exact registered
  | cons edit rest ih =>
    exact ih (edit_registered registered (keeps edit List.mem_cons_self))
      fun later member => keeps later (List.mem_cons_of_mem edit member)

/-- The guard is fixed when the application is wired. -/
theorem edits_guard (app : App) (edits : List App.Edit) :
    (edits.foldl App.edit app).guard = app.guard := by
  induction edits generalizing app with
  | nil => rfl
  | cons edit rest ih => exact (ih (app.edit edit)).trans (by cases edit <;> rfl)

theorem lookup_registered (users : List UserSettings) (id : Int) :
    ((users.map UserSettings.id).zip users).lookup id =
      users.find? fun user => user.id = id := by
  induction users with
  | nil => rfl
  | cons user rest ih =>
    by_cases found : user.id = id
    · simp [found]
    · have other : (id == user.id) = false := beq_eq_false_iff_ne.mpr (Ne.symm found)
      simp [List.lookup_cons, found, other, ih]

/-- Asking for a registered user is looking the user up in the settings. -/
theorem registered_user (registered : Registered app) (id : Int) :
    app.device.user? id = configured? app.settings id := by
  rw [Device.user?, App.device, registered.1]
  exact lookup_registered app.settings.device.users id

theorem configured_id {id : Int} (found : configured? settings id = some user) : user.id = id := by
  simpa using List.find?_some found

/-- What is found under a key that nothing else has. -/
theorem find_key_iff [DecidableEq κ] {key : α → κ} {items : List α}
    (distinct : (items.map key).Nodup) (wanted : κ) (item : α) :
    items.find? (fun item => key item = wanted) = some item ↔ item ∈ items ∧ key item = wanted := by
  constructor
  · intro found
    exact ⟨List.mem_of_find?_eq_some found, by simpa using List.find?_some found⟩
  · rintro ⟨member, rfl⟩
    cases found : items.find? (fun other => key other = key item) with
    | none => simpa using List.find?_eq_none.mp found item member
    | some other =>
      have same : key other = key item := by simpa using List.find?_some found
      have among := List.mem_of_find?_eq_some found
      rw [List.inj_on_of_nodup_map distinct among member same]

/-- A user in the settings is the one that is found under its id. -/
theorem configured_member (registered : Registered app)
    (member : user ∈ app.settings.device.users) :
    configured? app.settings user.id = some user :=
  (find_key_iff registered.2 user.id user).mpr ⟨member, rfl⟩

end CallTone.RegisteredUsers
