import CallTone.Proofs.FreshWiring
import CallTone.Proofs.ReadFields
import CallTone.Proofs.ReportLines
import Mathlib.Data.List.Nodup
import Mathlib.Data.List.Perm.Basic

/-! The order of listings. A section lists its users and its media in some order, and
reading keeps it. But every user is found by its id and every medium by its reference,
and there is one of each; profiles are counted, not taken in turn. So sections that list
the same in another order are accepted together, and applications that are wired from
them answer alike. -/
namespace CallTone.ListingOrder
open Settings ValidSections ValidatedUsers ReadFields RegisteredUsers UserAgreement FreshWiring

/-! Sections that list the same -/

/-- The users are the same raw value, or two lists of the same raw values. -/
inductive SameUsers : Option Value → Option Value → Prop where
  | same (raw : Option Value) : SameUsers raw raw
  | listed (perm : items.Perm others) : SameUsers (some (.list items)) (some (.list others))

/-- The media are the same raw value, or two maps of the same entries, whose keys are
texts and each there once. -/
inductive SameMedia : Option Value → Option Value → Prop where
  | same (raw : Option Value) : SameMedia raw raw
  | mapped (perm : entries.Perm others) (texts : ∀ entry ∈ entries, ∃ key, entry.1 = .str key)
      (once : (entries.map Prod.fst).Nodup) : SameMedia (some (.map entries)) (some (.map others))

/-- The fields of two device sections that differ only in the order of the users and of
the media. -/
structure Relisted (fields mirror : List (Value × Value)) : Prop where
  users : SameUsers (Value.lookup "users" fields) (Value.lookup "users" mirror)
  media : SameMedia (Value.lookup "media" fields) (Value.lookup "media" mirror)
  rest : ∀ name, name ≠ "users" → name ≠ "media" →
    Value.lookup name mirror = Value.lookup name fields

variable {τ : Type}

/-- Two devices that differ only in the order of the users and of the media. -/
structure Reordered (device other : DeviceSettings τ) : Prop where
  currentUser : other.currentUser = device.currentUser
  ringtoneCache : other.ringtoneCache = device.ringtoneCache
  media : device.media.Perm other.media
  once : (device.media.map Prod.fst).Nodup
  users : device.users.Perm other.users

theorem relisted_symm (relisted : Relisted fields mirror) : Relisted mirror fields where
  users := by
    have users := relisted.users
    generalize Value.lookup "users" fields = raw at users
    generalize Value.lookup "users" mirror = other at users
    cases users with
    | same => exact .same _
    | listed perm => exact .listed perm.symm
  media := by
    have media := relisted.media
    generalize Value.lookup "media" fields = raw at media
    generalize Value.lookup "media" mirror = other at media
    cases media with
    | same => exact .same _
    | mapped perm texts once =>
      refine .mapped perm.symm (fun entry member => texts entry (perm.mem_iff.mpr member)) ?_
      exact (perm.map _).nodup_iff.mp once
  rest name noUsers noMedia := (relisted.rest name noUsers noMedia).symm

/-! Reading -/

theorem users_reordered {read : Value → Checked α}
    (same : SameUsers (Value.lookup name fields) (Value.lookup name mirror))
    (valid : readField fields name absent (readList read) = .valid users) :
    ∃ others, readField mirror name absent (readList read) = .valid others ∧
      users.Perm others := by
  unfold readField at valid ⊢
  generalize Value.lookup name fields = raw at same valid
  generalize Value.lookup name mirror = other at same ⊢
  cases same with
  | same => exact ⟨users, valid, .refl users⟩
  | listed perm =>
    obtain ⟨items, listed, each⟩ := list_valid.mp (under_valid.mp valid)
    cases listed
    obtain ⟨others, there, reordered⟩ := List.perm_comp_forall₂ perm.symm each
    exact ⟨others, under_valid.mpr (list_valid.mpr ⟨_, rfl, there⟩), reordered.symm⟩

section
variable [DecidableEq τ] [Spelling τ]

omit [DecidableEq τ] in
/-- The texts that are read as the keys of entries. -/
theorem entry_keys {read : Value → Checked α} {pairs : List (τ × α)}
    (each : List.Forall₂ (EntryYields read) entries pairs)
    (texts : ∀ entry ∈ entries, ∃ key, entry.1 = Value.str key) :
    entries.map Prod.fst = (pairs.map Prod.fst).map fun key => Value.str (Spelling.text key) := by
  induction each with
  | nil => rfl
  | cons first rest ih =>
    obtain ⟨⟨key, text⟩, later⟩ := List.forall_mem_cons.mp texts
    have yields := first.1
    rw [text] at yields
    rw [List.map_cons, text, ih later, List.map_cons, List.map_cons, spell_valid.mp yields]

/-- Entries with distinct texts as keys are read as a table of them, in their order. -/
theorem entries_distinct {read : Value → Checked α} {pairs : List (τ × α)}
    (each : List.Forall₂ (EntryYields read) entries pairs)
    (texts : ∀ entry ∈ entries, ∃ key, entry.1 = Value.str key)
    (once : (entries.map Prod.fst).Nodup) : Table.ofPairs pairs = pairs := by
  rw [entry_keys each texts] at once
  exact Table.ofPairs_self (List.Nodup.of_map _ once)

theorem media_reordered {media : Table τ (Path τ)}
    (same : SameMedia (Value.lookup name fields) (Value.lookup name mirror))
    (valid : readField fields name absent (DeviceSettings.readMedia homes) = .valid media) :
    ∃ others, readField mirror name absent (DeviceSettings.readMedia homes) = .valid others ∧
      media.Perm others := by
  unfold readField at valid ⊢
  generalize Value.lookup name fields = raw at same valid
  generalize Value.lookup name mirror = other at same ⊢
  cases same with
  | same => exact ⟨media, valid, .refl media⟩
  | mapped perm texts once =>
    rename_i entries others
    have pairs : ∃ pairs, List.Forall₂ (EntryYields (Settings.readSpelled homes)) entries pairs ∧
        Table.ofPairs pairs = media := by
      rcases media_valid.mp (under_valid.mp valid) with ⟨_, pairs, same, each, made⟩ | ⟨none, made⟩
      · cases same
        exact ⟨pairs, each, made⟩
      · rw [List.isEmpty_iff.mp none, made]
        exact ⟨[], .nil, rfl⟩
    obtain ⟨pairs, each, made⟩ := pairs
    rw [entries_distinct each texts once] at made
    subst made
    obtain ⟨reordered, there, order⟩ := List.perm_comp_forall₂ perm.symm each
    have made : Table.ofPairs reordered = reordered :=
      entries_distinct there (fun entry member => texts entry (perm.mem_iff.mpr member))
        ((perm.map _).nodup_iff.mp once)
    refine ⟨reordered, under_valid.mpr (media_valid.mpr (.inl ?_)), order.symm⟩
    exact ⟨others, reordered, rfl, there, made⟩

omit [DecidableEq τ] [Spelling τ] in
/-- The rules about users do not depend on their order. -/
theorem reordered_consistent {device other : DeviceSettings τ} (reordered : Reordered device other)
    (consistent : Consistent device) : Consistent other := by
  have ids : (device.users.map UserSettings.id).Perm (other.users.map UserSettings.id) :=
    reordered.users.map _
  refine ⟨ids.nodup_iff.mp consistent.distinct, ?_, fun user member parent named => ?_⟩
  · rw [reordered.currentUser]
    exact ids.mem_iff.mp consistent.current
  · have among : user ∈ device.users := reordered.users.mem_iff.mpr member
    obtain ⟨configured, apart⟩ := consistent.parents user among parent named
    exact ⟨ids.mem_iff.mp configured, apart⟩

/-- A section that lists the same as an accepted one is accepted, and yields the same
users and media, in its own order. -/
theorem relisted_read {device : DeviceSettings τ} (relisted : Relisted fields mirror)
    (valid : DeviceSettings.read homes (.map fields) = .valid device) :
    ∃ other, DeviceSettings.read homes (.map mirror) = .valid other ∧ Reordered device other := by
  obtain ⟨_, same, chosen, cached, stocked, peopled, consistent⟩ := device_valid.mp valid
  cases same
  have unchanged {name : String} (noUsers : name ≠ "users") (noMedia : name ≠ "media") {α : Type}
      (absent : α) (read : Value → Checked α) :
      readField mirror name absent read = readField fields name absent read := by
    rw [readField, readField, relisted.rest name noUsers noMedia]
  obtain ⟨users, peopled, people⟩ := users_reordered relisted.users peopled
  obtain ⟨media, restocked, stock⟩ := media_reordered relisted.media stocked
  let other : DeviceSettings τ := ⟨device.currentUser, device.ringtoneCache, media, users⟩
  have reordered : Reordered device other := ⟨rfl, rfl, stock, media_keys stocked, people⟩
  refine ⟨other, device_valid.mpr ⟨mirror, rfl, ?_, ?_, restocked, peopled, ?_⟩, reordered⟩
  · rw [unchanged (by decide) (by decide), chosen]
  · rw [unchanged (by decide) (by decide), cached]
  · exact consistent_iff.mpr (reordered_consistent reordered (consistent_iff.mp consistent))

end

/-! Lookups -/

/-- Where keys are distinct, the order makes no difference to what is found. -/
theorem find_reordered [DecidableEq κ] {key : α → κ} {items others : List α}
    (perm : items.Perm others) (distinct : (items.map key).Nodup) (wanted : κ) :
    others.find? (fun item => key item = wanted) = items.find? (fun item => key item = wanted) := by
  have apart : (others.map key).Nodup := (perm.map key).nodup_iff.mp distinct
  refine Option.ext fun item => ?_
  rw [find_key_iff distinct, find_key_iff apart, perm.mem_iff]

theorem get_find (table : Table String α) (key : String) :
    table.get? key = (table.find? fun entry => entry.1 = key).map Prod.snd := by
  induction table with
  | nil => rfl
  | cons entry rest ih =>
    by_cases same : entry.1 = key
    · simp [Table.get?, same]
    · simp [Table.get?, same, ih]

theorem get_reordered {table other : Table String α} (perm : table.Perm other)
    (distinct : (table.map Prod.fst).Nodup) (key : String) : other.get? key = table.get? key := by
  rw [get_find, get_find, find_reordered perm distinct]

/-! Media in another order -/

/-- The application with other media. -/
def restocked (app : App) (media : Table String Path) : App :=
  { app with settings := { app.settings with device := { app.settings.device with media := media } } }

section
variable {app : App} {media : Table String Path}
variable (same : ∀ uri, media.get? uri = app.settings.device.media.get? uri)
include same

theorem restocked_locate : (restocked app media).device.locate = app.device.locate := by
  have found : (restocked app media).device.locateSetting = app.device.locateSetting := by
    funext sound
    unfold Device.locateSetting restocked App.device
    rw [same]
  funext context uri
  unfold Device.locate
  rw [found]
  unfold restocked App.device
  rw [same]
  rfl

theorem restocked_load : (restocked app media).load = app.load := by
  funext context uri shaper attributes
  unfold App.load
  rw [restocked_locate same]
  rfl

/-- The media are asked about only when a sound is loaded. -/
theorem restocked_reply : (restocked app media).reply = app.reply := by
  funext request
  cases request with
  | load context uri shaper attributes =>
    unfold App.reply
    rw [restocked_load same]
  | _ => rfl

theorem restocked_hold (dialogue : Dialogue LoadedRingtone α) :
    (restocked app media).hold dialogue = app.hold dialogue := by
  unfold App.hold App.collaborators
  rw [restocked_reply same]

theorem restocked_report : (restocked app media).report = app.report := by
  have sound (label uri : String) :
      (restocked app media).soundLine label uri = app.soundLine label uri := by
    unfold App.soundLine
    rw [restocked_load same]
    rfl
  have vibration : (restocked app media).vibrationLine = app.vibrationLine := by
    unfold App.vibrationLine
    simp only [sound]
    rfl
  have default : (restocked app media).defaultLine = app.defaultLine := by
    unfold App.defaultLine
    simp only [sound]
    rfl
  unfold App.report
  rw [vibration, default]
  rfl

theorem restocked_answer (query : Query) :
    query.answer (restocked app media) = query.answer app := by
  have configured (thread : Thread) (call : IncomingCall) (muted : Bool) :
      (restocked app media).getRingtone thread call muted = app.getRingtone thread call muted := by
    unfold App.getRingtone
    simp only [restocked_hold same]
    rfl
  have silent (thread : Thread) :
      (restocked app media).getHapticOnly thread = app.getHapticOnly thread :=
    restocked_hold same _
  cases query with
  | resolve chosen caller user muted json =>
    simp only [Query.answer, App.resolveText, configured]
    rfl
  | haptic json =>
    simp only [Query.answer, App.hapticText]
    rw [silent]
  | report => exact restocked_report same
  | ringtone thread call shaper muted => exact restocked_hold same _
  | configured thread call muted => exact configured thread call muted
  | silent thread => exact silent thread
  | workProfile user => exact restocked_hold same _
  | contextFor user => exact restocked_hold same _

end

/-! Users in another order -/

/-- Applications that agree on the session's user, and list the same profiles for it,
have reports that are good alike, or fail alike. -/
theorem report_agrees (agree : Agree known app other)
    (listed : SameProfiles (app.device.enabledProfiles app.device.currentUser.identifier)
      (other.device.enabledProfiles app.device.currentUser.identifier)) :
    other.report.map Report.ok = app.report.map Report.ok := by
  unfold App.report
  rw [session_agrees agree, vibration_line_agrees agree, default_line_agrees agree]
  generalize app.device.enabledProfiles app.device.currentUser.identifier = listing at listed ⊢
  generalize other.device.enabledProfiles app.device.currentUser.identifier = mirror at listed ⊢
  cases listed with
  | failed failure => rfl
  | listed perm =>
    rename_i profiles others
    dsimp only
    cases app.vibrationLine.result with
    | error failure => rfl
    | ok vibration =>
      dsimp only [App.Answer.map]
      cases app.defaultLine.result with
      | error failure => rfl
      | ok ringtone =>
        have good : Report.ok ⟨[other.usersLine, other.packageLine, other.workProfileLine others,
              vibration, ringtone] ++ other.cacheLines⟩ =
            Report.ok ⟨[app.usersLine, app.packageLine, app.workProfileLine profiles, vibration,
              ringtone] ++ app.cacheLines⟩ := by
          refine Bool.eq_iff_iff.mpr ((ReportLines.good_lines rfl).trans ?_)
          rw [package_line_agrees agree]
          exact (ReportLines.good_lines rfl).symm
        exact congrArg (fun good => App.Answer.mk (.ok good) _) good

section
variable {device other : DeviceSettings} (reordered : Reordered device other)
variable (consistent : Consistent device) (resolver : ResolverSettings)
variable (playback : PlaybackSettings) (guard : Option Guard) (files : Files)
include reordered consistent

theorem user_reordered (id : Int) :
    (App.wire ⟨resolver, other, playback⟩ guard files).device.user? id =
      (App.wire ⟨resolver, device, playback⟩ guard files).device.user? id := by
  have first := lookup_registered device.users id
  have second := lookup_registered other.users id
  rw [find_reordered reordered.users consistent.distinct] at second
  exact second.trans first.symm

theorem relisted_agree :
    Agree (fun _ => True) (restocked (App.wire ⟨resolver, device, playback⟩ guard files) other.media)
      (App.wire ⟨resolver, other, playback⟩ guard files) where
  resolver := rfl
  playback := rfl
  session := reordered.currentUser
  cache := reordered.ringtoneCache
  media := rfl
  guard := rfl
  files := rfl
  included := trivial
  people id _ := by
    rw [user_reordered reordered consistent]
    rfl

theorem profiles_reordered (id : Int) :
    SameProfiles
      ((App.wire ⟨resolver, device, playback⟩ guard files).device.enabledProfiles id)
      ((App.wire ⟨resolver, other, playback⟩ guard files).device.enabledProfiles id) := by
  unfold Device.enabledProfiles
  rw [user_reordered reordered consistent]
  cases (App.wire ⟨resolver, device, playback⟩ guard files).device.user? id with
  | none => exact .failed _
  | some owner => exact .listed ((reordered.users.filter _).map _)

theorem reordered_answers :
    let app := App.wire ⟨resolver, device, playback⟩ guard files
    let twin := App.wire ⟨resolver, other, playback⟩ guard files
    (∀ query : Query, query ≠ .report → query.answer app = query.answer twin) ∧
      app.report.map Report.ok = twin.report.map Report.ok := by
  intro app twin
  have stock (uri : String) : other.media.get? uri = app.settings.device.media.get? uri :=
    get_reordered reordered.media reordered.once uri
  have agree : Agree (fun _ => True) (restocked app other.media) twin :=
    relisted_agree reordered consistent resolver playback guard files
  have listed (id : Int) : SameProfiles ((restocked app other.media).device.enabledProfiles id)
      (twin.device.enabledProfiles id) :=
    profiles_reordered reordered consistent resolver playback guard files id
  constructor
  · intro query unreported
    rw [← restocked_answer stock query]
    exact answer_agrees agree listed query unreported
  · rw [← restocked_report stock]
    exact (report_agrees agree (listed _)).symm

end

/-- In whatever order a device section lists its users and its media: it is accepted or
not, whatever texts it holds, and what is wired from it answers every query, with the
same notices, and reports that all is well or not, or fails to, as it does in any other
order. -/
theorem order_never_matters (relisted : Relisted fields mirror) (homes : Path.Homes) :
    (∀ (τ : Type) [DecidableEq τ] [Spelling τ],
      (∃ device : DeviceSettings τ, DeviceSettings.read homes (.map fields) = .valid device) ↔
        ∃ other : DeviceSettings τ, DeviceSettings.read homes (.map mirror) = .valid other) ∧
    ∀ device other, DeviceSettings.read homes (.map fields) = .valid device →
      DeviceSettings.read homes (.map mirror) = .valid other →
      ∀ (resolver : ResolverSettings) (playback : PlaybackSettings) (guard : Option Guard)
        (files : Files),
        let app := App.wire ⟨resolver, device, playback⟩ guard files
        let twin := App.wire ⟨resolver, other, playback⟩ guard files
        (∀ query : Query, query ≠ .report → query.answer app = query.answer twin) ∧
          app.report.map Report.ok = twin.report.map Report.ok := by
  refine ⟨fun τ _ _ => ⟨fun ⟨device, valid⟩ => ?_, fun ⟨other, valid⟩ => ?_⟩, ?_⟩
  · obtain ⟨other, there, -⟩ := relisted_read relisted valid
    exact ⟨other, there⟩
  · obtain ⟨device, there, -⟩ := relisted_read (relisted_symm relisted) valid
    exact ⟨device, there⟩
  · intro device other valid there resolver playback guard files
    obtain ⟨_, read, reordered⟩ := relisted_read relisted valid
    rw [there] at read
    cases read
    obtain ⟨_, -, -, -, -, -, consistent⟩ := device_valid.mp valid
    exact reordered_answers reordered (consistent_iff.mp consistent) resolver playback guard files

/-- A section with media and users. -/
def sectionOf (media : List (Value × Value)) (users : List Value) : List (Value × Value) :=
  [(.str "current_user", .int 0), (.str "media", .map media), (.str "users", .list users)]

def twoMedia : List (Value × Value) :=
  [(.str "content://media/1", .str "/one.ogg"), (.str "content://media/2", .str "/two.ogg")]

/-- An owner, a work profile that is locked, and a guest. -/
def threeUsers : List Value :=
  [.map [(.str "id", .int 0)],
    .map [(.str "id", .int 10), (.str "managed", .bool true), (.str "parent", .int 0),
      (.str "unlocked", .bool false)],
    .map [(.str "id", .int 11), (.str "parent", .int 0)]]

theorem reversed_relisted :
    Relisted (sectionOf twoMedia threeUsers) (sectionOf twoMedia.reverse threeUsers.reverse) where
  users := .listed threeUsers.reverse_perm.symm
  media := .mapped twoMedia.reverse_perm.symm (by simp [twoMedia]) (by simp [twoMedia])
  rest name noUsers noMedia := by
    simp [sectionOf, Value.lookup, Ne.symm noUsers, Ne.symm noMedia]

theorem reversed_answers_alike :
    ∃ device other,
      DeviceSettings.read "/home/ring" (.map (sectionOf twoMedia threeUsers)) = .valid device ∧
      DeviceSettings.read "/home/ring" (.map (sectionOf twoMedia.reverse threeUsers.reverse)) =
        .valid other ∧
      device.users.map UserSettings.id = [0, 10, 11] ∧
      other.users.map UserSettings.id = [11, 10, 0] ∧
      let app := App.wire { device } none []
      let twin := App.wire { device := other } none []
      (∀ query : Query, query ≠ .report → query.answer app = query.answer twin) ∧
        app.report.map Report.ok = twin.report.map Report.ok := by
  obtain ⟨device, valid⟩ : ∃ device,
      DeviceSettings.read "/home/ring" (.map (sectionOf twoMedia threeUsers)) = .valid device :=
    ⟨_, rfl⟩
  obtain ⟨accepted, alike⟩ := order_never_matters reversed_relisted "/home/ring"
  obtain ⟨other, there⟩ := (accepted String).mp ⟨device, valid⟩
  refine ⟨device, other, valid, there, ?_, ?_, alike device other valid there _ _ none []⟩
  · cases valid
    rfl
  · cases there
    rfl

end CallTone.ListingOrder
