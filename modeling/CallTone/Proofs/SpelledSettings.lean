import CallTone.Proofs.ReadFields
import CallTone.Settings.Loading

/-! Settings of strings among settings of texts. A document may hold texts that are no
strings, so reading into strings accepts less than reading into texts in general. What it
accepts it reads in the same way: each field of one is that of the other, spelled out. So
loading finds the settings of strings that a file holds. -/
namespace CallTone.SpelledSettings
open Settings ValidSections ReadFields

variable {τ : Type} [DecidableEq τ] [Spelling τ]

/-! Texts in general -/

def wideTable (wide : α → β) (table : Table τ α) : Table Text β :=
  table.map fun entry => (Spelling.text entry.1, wide entry.2)

def wideResolver (resolver : ResolverSettings τ) : ResolverSettings Text :=
  ⟨Spelling.text resolver.packageName, resolver.vibrationSoundPath, resolver.enforceThreadCheck⟩

def wideUser (user : UserSettings τ) : UserSettings Text :=
  ⟨user.id, user.unlocked, user.managed, user.enabled, user.parent,
    user.packages.map (List.map Spelling.text), wideTable Spelling.text user.sounds⟩

def wideDevice (device : DeviceSettings τ) : DeviceSettings Text :=
  ⟨device.currentUser, device.ringtoneCache.map Path.wide, wideTable Path.wide device.media,
    device.users.map wideUser⟩

/-- The settings with their texts as texts in general. -/
def wideSettings (settings : Settings τ) : Settings Text :=
  ⟨wideResolver settings.resolver, wideDevice settings.device, settings.playback⟩

omit [DecidableEq τ] in
theorem wide_path (path : Path τ) : path.wide.wide = path.wide := by
  have same : (Spelling.text : Text → Text) = id := rfl
  rw [Path.wide, Path.wide, same, List.map_id]

theorem wide_insert (wide : α → β) (table : Table τ α) (key : τ) (value : α) :
    wideTable wide (Table.insert table key value) =
      Table.insert (wideTable wide table) (Spelling.text key) (wide value) := by
  induction table with
  | nil => rfl
  | cons entry rest ih =>
    obtain ⟨known, held⟩ := entry
    have more : wideTable wide ((known, held) :: rest) =
        (Spelling.text known, wide held) :: wideTable wide rest := rfl
    rw [more]
    by_cases same : known = key
    · rw [Table.insert, if_pos same, Table.insert, if_pos (congrArg Spelling.text same)]
      rfl
    · have apart : ¬ Spelling.text known = Spelling.text key := fun equal =>
        same (Spelling.text_inj.mp equal)
      rw [Table.insert, if_neg same, Table.insert, if_neg apart, ← ih]
      rfl

theorem wide_pairs (wide : α → β) (pairs : List (τ × α)) :
    wideTable wide (Table.ofPairs pairs) = Table.ofPairs (wideTable wide pairs) := by
  -- The tables that are written so far go together.
  have grown : ∀ start : Table τ α,
      wideTable wide (pairs.foldl (fun table entry => Table.insert table entry.1 entry.2) start) =
        (wideTable wide pairs).foldl (fun table entry => Table.insert table entry.1 entry.2)
          (wideTable wide start) := by
    induction pairs with
    | nil => exact fun _ => rfl
    | cons pair rest ih =>
      intro start
      rw [List.foldl_cons, ih, wide_insert]
      rfl
  exact grown []

/-! Readers -/

/-- A reader accepts what another one does, and reads it in the same way. -/
def Widens (wide : α → β) (read : Value → Checked α) (other : Value → Checked β) : Prop :=
  ∀ raw value, read raw = .valid value → other raw = .valid (wide value)

omit [DecidableEq τ] in
theorem text_widens : Widens (Spelling.text (τ := τ)) readText readText := by
  intro raw written valid
  cases raw with
  | str text => exact (spell_valid (τ := Text)).mpr (spell_valid (τ := τ).mp valid)
  | octets os =>
    unfold readText at valid ⊢
    dsimp only at valid ⊢
    split at valid
    next decoded =>
      cases valid
      rw [Spelling.text_ofString]
      rfl
    next => cases valid
  | _ => cases valid

theorem optional_widens {read : Value → Checked α} {other : Value → Checked β}
    (widens : Widens wide read other) :
    Widens (Option.map wide) (readOptional read) (readOptional other) := by
  intro raw value valid
  cases raw with
  | null =>
    cases valid
    rfl
  | _ =>
    obtain ⟨found, given, rfl⟩ := map_eq_valid.mp valid
    exact map_eq_valid.mpr ⟨_, widens _ _ given, rfl⟩

theorem list_widens {read : Value → Checked α} {other : Value → Checked β}
    (widens : Widens wide read other) :
    Widens (List.map wide) (readList read) (readList other) := by
  intro raw values valid
  obtain ⟨items, given, each⟩ := list_valid.mp valid
  refine list_valid.mpr ⟨items, given, ?_⟩
  rw [List.forall₂_map_right_iff]
  exact each.imp fun item value found => widens item value found

omit [DecidableEq τ] in
theorem entries_widen {read : Value → Checked α} {other : Value → Checked β}
    (widens : Widens wide read other) {pairs : List (τ × α)}
    (each : List.Forall₂ (EntryYields read) entries pairs) :
    List.Forall₂ (EntryYields other) entries (wideTable wide pairs) := by
  rw [wideTable, List.forall₂_map_right_iff]
  exact each.imp fun entry pair found => ⟨text_widens _ _ found.1, widens _ _ found.2⟩

theorem map_widens {read : Value → Checked α} {other : Value → Checked β}
    (widens : Widens wide read other) :
    Widens (wideTable (τ := τ) wide) (readMap read) (readMap other) := by
  intro raw table valid
  obtain ⟨entries, pairs, rfl, each, rfl⟩ := map_valid.mp valid
  exact map_valid.mpr ⟨entries, _, rfl, entries_widen widens each, (wide_pairs wide pairs).symm⟩

theorem field_widens {read : Value → Checked α} {other : Value → Checked β}
    (widens : Widens wide read other) (valid : readField fields name absent read = .valid value) :
    readField fields name (wide absent) other = .valid (wide value) := by
  unfold readField at valid ⊢
  split at valid
  next =>
    cases valid
    rfl
  next => exact under_valid.mpr (widens _ _ (under_valid.mp valid))

omit [DecidableEq τ] in
theorem path_widens (homes : Path.Homes) :
    Widens (Path.wide (τ := τ)) (Settings.readSpelled homes) (Settings.readSpelled homes) := by
  intro raw path valid
  refine read_spelled_valid.mpr ?_
  rw [wide_path]
  exact read_spelled_valid.mp valid

theorem media_widens (homes : Path.Homes) :
    Widens (wideTable (Path.wide (τ := τ))) (DeviceSettings.readMedia homes)
      (DeviceSettings.readMedia homes) := by
  intro raw media valid
  rcases media_valid.mp valid with ⟨entries, pairs, rfl, each, rfl⟩ | ⟨empty, rfl⟩
  · exact media_valid.mpr (.inl ⟨entries, _, rfl, entries_widen (path_widens homes) each,
      (wide_pairs Path.wide pairs).symm⟩)
  · exact media_valid.mpr (.inr ⟨empty, rfl⟩)

/-! Sections -/

omit [DecidableEq τ] in
theorem wide_unknown (sounds : Table τ τ) :
    UserSettings.unknownSounds (wideTable Spelling.text sounds) =
      UserSettings.unknownSounds sounds := by
  rw [UserSettings.unknownSounds, wideTable, List.map_map]
  rfl

theorem sounds_widen :
    Widens (wideTable (Spelling.text (τ := τ))) UserSettings.readSounds UserSettings.readSounds := by
  intro raw sounds valid
  obtain ⟨table, read, checked⟩ := and_then_valid.mp valid
  refine and_then_valid.mpr ⟨_, map_widens text_widens _ _ read, ?_⟩
  rw [wide_unknown]
  split at checked
  next known =>
    cases checked
    rfl
  next => cases checked

theorem user_widens : Widens (wideUser (τ := τ)) UserSettings.read UserSettings.read := by
  intro raw user valid
  obtain ⟨fields, rfl, known, unlocks, manages, enables, parented, packed, sounding⟩ :=
    user_valid.mp valid
  exact user_valid.mpr ⟨fields, rfl, known, unlocks, manages, enables, parented,
    field_widens (optional_widens (list_widens text_widens)) packed,
    field_widens sounds_widen sounding⟩

omit [DecidableEq τ] in
theorem wide_inconsistency (device : DeviceSettings τ) :
    (wideDevice device).inconsistency? = device.inconsistency? := by
  have ids : (wideDevice device).users.map UserSettings.id = device.users.map UserSettings.id :=
    List.map_map
  have faults (ids : List Int) :
      (wideDevice device).users.findSome? (DeviceSettings.parentFault? ids) =
        device.users.findSome? (DeviceSettings.parentFault? ids) := List.findSome?_map
  unfold DeviceSettings.inconsistency?
  dsimp only
  rw [ids, faults]
  rfl

theorem device_widens (homes : Path.Homes) :
    Widens (wideDevice (τ := τ)) (DeviceSettings.read homes) (DeviceSettings.read homes) := by
  intro raw device valid
  obtain ⟨fields, rfl, chosen, cached, stocked, peopled, consistent⟩ := device_valid.mp valid
  rw [cache_optional] at cached
  have cache := field_widens (optional_widens (path_widens homes)) cached
  have users := field_widens (list_widens user_widens) peopled
  rw [← cache_optional] at cache
  exact device_valid.mpr ⟨fields, rfl, chosen, cache, field_widens (media_widens homes) stocked,
    users, (wide_inconsistency device).trans consistent⟩

omit [DecidableEq τ] in
theorem resolver_widens (homes : Path.Homes) :
    Widens (wideResolver (τ := τ)) (ResolverSettings.read homes) (ResolverSettings.read homes) := by
  intro raw resolver valid
  obtain ⟨fields, rfl, named, vibrates, enforced⟩ := resolver_valid.mp valid
  refine resolver_valid.mpr ⟨fields, rfl, ?_, vibrates, enforced⟩
  have read := field_widens text_widens named
  rwa [Spelling.text_ofString] at read

/-- Settings of strings are the settings of texts in general that a raw value describes. -/
theorem settings_widen (homes : Path.Homes) :
    Widens (wideSettings (τ := τ)) (Settings.read homes) (Settings.read homes) := by
  intro raw settings valid
  obtain ⟨fields, rfl, resolved, wired, played⟩ := settings_valid.mp valid
  have resolver := field_widens (resolver_widens homes) resolved
  have device := field_widens (device_widens homes) wired
  have absent : wideResolver ({} : ResolverSettings τ) = {} := by
    rw [wideResolver, Spelling.text_ofString]
    rfl
  rw [absent] at resolver
  exact settings_valid.mpr ⟨fields, rfl, resolver, device, played⟩

/-! Files -/

theorem document_settings {settings : Settings τ} :
    readDocument homes value = .ok settings ↔
      Settings.read homes (if value.isEmpty then .map [] else value) = .valid settings := by
  unfold readDocument
  cases (Settings.read homes (if value.isEmpty then .map [] else value) : Checked (Settings τ)) <;>
    simp

theorem file_settings {settings : Settings τ} :
    readFile homes octets = .ok settings ↔ ∃ text value, decodeFile octets = .ok text ∧
      Yaml.read text = .ok value ∧ readDocument homes value = .ok settings := by
  unfold readFile
  cases decodeFile octets with
  | error failure => simp
  | ok text =>
    cases said : Yaml.read text with
    | error fault => cases fault <;> simp [said]
    | ok value => simp [said]

/-- A file that holds settings of strings holds the same settings of texts in general. -/
theorem file_widens {settings : Settings τ} (held : readFile homes octets = .ok settings) :
    readFile homes octets = .ok (wideSettings settings) := by
  obtain ⟨text, value, decoded, said, read⟩ := file_settings.mp held
  refine file_settings.mpr ⟨text, value, decoded, said, document_settings.mpr ?_⟩
  exact settings_widen homes _ _ (document_settings.mp read)

/-- Loading yields the settings of strings that a file holds: that it is checked with texts
in general before does not come between. -/
theorem loads_iff {settings : Settings} :
    load homes octets = .ok settings ↔ readFile homes octets = .ok settings := by
  constructor
  · intro loaded
    unfold load at loaded
    split at loaded
    next => cases loaded
    next =>
      split at loaded
      next held => rwa [Except.ok.inj loaded] at held
      next => cases loaded
  · intro held
    rw [load, file_widens held, held]

end CallTone.SpelledSettings
