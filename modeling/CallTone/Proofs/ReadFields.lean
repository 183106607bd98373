import CallTone.Proofs.ValidSections
import Mathlib.Data.List.Forall2

/-! What reading accepts in a field. A list or a map is valid exactly when each of its
items is, and a path is one that a text leads to. -/
namespace CallTone.ReadFields
open Settings ValidSections

/-- A reader accepts a raw value as a value. -/
def Yields (read : ρ → Checked α) (raw : ρ) (value : α) : Prop := read raw = .valid value

/-- What is read of some items was read of each. -/
theorem item_of_value {yields : ρ → α → Prop} (read : List.Forall₂ yields items values)
    (member : value ∈ values) : ∃ item ∈ items, yields item value := by
  induction read with
  | nil => cases member
  | cons first rest ih =>
    rcases List.mem_cons.mp member with rfl | later
    · exact ⟨_, List.mem_cons_self, first⟩
    · obtain ⟨item, held, found⟩ := ih later
      exact ⟨item, List.mem_cons_of_mem _ held, found⟩

/-! Texts -/

/-- A text is read as the one of the type that is made of its letters. -/
theorem spell_valid {τ : Type} [Spelling τ] {written : τ} :
    spellText text = .valid written ↔ Spelling.text written = text := by
  rw [← Spelling.ofText?_eq_some, spellText]
  cases (Spelling.ofText? text : Option τ) <;> simp [Checked.fault]

/-! Lists -/

theorem both_valid_iff {first : Checked α} {second : Checked β} :
    first.both second = .valid pair ↔ first = .valid pair.1 ∧ second = .valid pair.2 := by
  obtain ⟨a, b⟩ := pair
  cases first <;> cases second <;> simp [Checked.both]

theorem cons_valid {first : Checked α} {rest : Checked (List α)} :
    ((first.both rest).map fun pair => pair.1 :: pair.2) = .valid values ↔
      ∃ value more, first = .valid value ∧ rest = .valid more ∧ values = value :: more := by
  rw [map_eq_valid]
  constructor
  · rintro ⟨⟨value, more⟩, both, rfl⟩
    obtain ⟨start, after⟩ := both_valid_iff.mp both
    exact ⟨value, more, start, after, rfl⟩
  · rintro ⟨value, more, start, after, rfl⟩
    exact ⟨(value, more), both_valid_iff.mpr ⟨start, after⟩, rfl⟩

theorem all_valid {check : ρ → Checked α} :
    Checked.all check items = .valid values ↔ List.Forall₂ (Yields check) items values := by
  induction items generalizing values with
  | nil => simp [Checked.all, eq_comm]
  | cons item rest ih =>
    rw [Checked.all, cons_valid]
    simp only [ih, List.forall₂_cons_left_iff]
    exact Iff.rfl

/-- The positions of the items are only told of their faults. -/
theorem all_from_valid {check : ρ → Checked α} :
    Checked.allFrom check position items = .valid values ↔
      List.Forall₂ (Yields check) items values := by
  induction items generalizing position values with
  | nil => simp [Checked.allFrom, eq_comm]
  | cons item rest ih =>
    rw [Checked.allFrom, cons_valid]
    simp only [ih, under_valid, List.forall₂_cons_left_iff]
    exact Iff.rfl

/-- The items of a raw value that counts as a list. -/
def itemsOf? : Value → Option (List Value)
  | .list items | .set items => some items
  | .pair first second => some [first, second]
  | _ => none

theorem list_valid {read : Value → Checked α} :
    readList read raw = .valid values ↔
      ∃ items, itemsOf? raw = some items ∧ List.Forall₂ (Yields read) items values := by
  cases raw with
  | list items => exact all_from_valid.trans (by simp [itemsOf?])
  | set items => exact all_from_valid.trans (by simp [itemsOf?])
  | pair first second =>
    exact all_from_valid.trans (by simp only [itemsOf?, Option.some.injEq, exists_eq_left'])
  | _ => simp [readList, itemsOf?, Checked.fault]

/-! Paths -/

theorem expand_valid :
    Settings.expandPath homes text = .valid path ↔
      (Path.ofText text).expandHome homes = .ok path := by
  unfold Settings.expandPath
  cases (Path.ofText text).expandHome homes with
  | ok found => simp
  | error fault => cases fault <;> simp [Checked.fault]

/-- What is read as a path is so by some text. -/
theorem path_valid (valid : Settings.readPath homes raw = .valid path) :
    ∃ text, Settings.expandPath homes text = .valid path := by
  cases raw with
  | str text => exact ⟨text, valid⟩
  | _ => cases valid

variable {τ : Type} [DecidableEq τ] [Spelling τ]

omit [DecidableEq τ] in
theorem spelled_valid {path : Path τ} :
    Settings.spellPath wide = .valid path ↔ path.wide = wide := by
  rw [← Path.ofWide?_eq_some, Settings.spellPath]
  cases (wide.ofWide? : Option (Path τ)) <;> simp [Checked.fault]

omit [DecidableEq τ] in
theorem read_spelled_valid {path : Path τ} :
    Settings.readSpelled homes raw = .valid path ↔
      Settings.readPath homes raw = .valid path.wide := by
  rw [Settings.readSpelled, and_then_valid]
  simp [spelled_valid]

omit [DecidableEq τ] in
/-- The cached ringtone is a path that may also be null. -/
theorem cache_optional (homes : Path.Homes) :
    (DeviceSettings.readCache homes : Value → Checked (Option (Path τ))) =
      readOptional (Settings.readSpelled homes) := by
  funext raw
  cases raw <;> rfl

omit [DecidableEq τ] in
theorem cache_valid {path : Path τ}
    (valid : DeviceSettings.readCache homes raw = .valid (some path)) :
    Settings.readSpelled homes raw = .valid path := by
  rw [cache_optional] at valid
  unfold readOptional at valid
  split at valid
  next => cases valid
  next =>
    obtain ⟨found, read, same⟩ := map_eq_valid.mp valid
    rwa [Option.some.inj same] at read

/-! Maps -/

/-- An entry is read as a text and a value. -/
def EntryYields (read : Value → Checked α) (entry : Value × Value) (pair : τ × α) : Prop :=
  Yields readText entry.1 pair.1 ∧ Yields read entry.2 pair.2

omit [DecidableEq τ] in
theorem entry_valid {read : Value → Checked α} {pair : τ × α} :
    readEntry read entry = .valid pair ↔ EntryYields read entry pair := by
  rw [readEntry, both_valid_iff, under_valid, under_valid, under_valid]
  exact Iff.rfl

theorem map_valid {read : Value → Checked α} {table : Table τ α} :
    readMap read raw = .valid table ↔ ∃ entries pairs, raw = .map entries ∧
      List.Forall₂ (EntryYields read) entries pairs ∧ Table.ofPairs pairs = table := by
  have each : (Yields (readEntry read) : Value × Value → τ × α → Prop) = EntryYields read :=
    funext fun _ => funext fun _ => propext entry_valid
  cases raw with
  | map entries =>
    rw [readMap, map_eq_valid]
    simp [all_valid, each]
  | _ => simp [readMap, Checked.fault]

omit [DecidableEq τ] in
theorem medium_valid {pair : τ × Path τ} :
    DeviceSettings.readMedium entry = .valid pair ↔
      readText entry.1 = .valid pair.1 ∧ Settings.spellPath entry.2 = .valid pair.2 := by
  rw [DeviceSettings.readMedium, both_valid_iff, under_valid, under_valid, under_valid]

omit [DecidableEq τ] in
/-- The paths of the media are expanded before any key is read. -/
theorem entries_of_media_valid {pairs : List (τ × Path τ)} :
    (∃ expanded, DeviceSettings.expandMedia homes entries = .valid expanded ∧
        Checked.all DeviceSettings.readMedium expanded = .valid pairs) ↔
      List.Forall₂ (EntryYields (Settings.readSpelled homes)) entries pairs := by
  induction entries generalizing pairs with
  | nil => simp [DeviceSettings.expandMedia, Checked.all, eq_comm]
  | cons entry rest ih =>
    obtain ⟨key, raw⟩ := entry
    constructor
    · rintro ⟨expanded, read, keyed⟩
      obtain ⟨path, found, mapped⟩ := and_then_valid.mp read
      obtain ⟨more, others, rfl⟩ := map_eq_valid.mp mapped
      obtain ⟨pair, after, first, last, rfl⟩ := cons_valid.mp keyed
      obtain ⟨text, spelled⟩ := medium_valid.mp first
      have path : Settings.readSpelled homes raw = .valid pair.2 :=
        and_then_valid.mpr ⟨_, found, spelled⟩
      exact .cons ⟨text, path⟩ (ih.mp ⟨more, others, last⟩)
    · intro read
      obtain ⟨pair, after, ⟨text, path⟩, last, rfl⟩ := List.forall₂_cons_left_iff.mp read
      obtain ⟨wide, found, spelled⟩ := and_then_valid.mp path
      obtain ⟨more, others, keyed⟩ := ih.mpr last
      refine ⟨(key, wide) :: more, ?_, cons_valid.mpr ⟨pair, after, ?_, keyed, rfl⟩⟩
      · exact and_then_valid.mpr ⟨wide, found, map_eq_valid.mpr ⟨more, others, rfl⟩⟩
      · exact medium_valid.mpr ⟨text, spelled⟩

/-- The media are read as any map of paths is, but what counts as nothing stands for
none. -/
theorem media_valid {media : Table τ (Path τ)} :
    DeviceSettings.readMedia homes raw = .valid media ↔
      (∃ entries pairs, raw = .map entries ∧
        List.Forall₂ (EntryYields (Settings.readSpelled homes)) entries pairs ∧
        Table.ofPairs pairs = media) ∨ raw.isEmpty = true ∧ media = [] := by
  cases raw with
  | map entries =>
    have read : DeviceSettings.readMedia homes (.map entries) = .valid media ↔
        ∃ pairs, List.Forall₂ (EntryYields (Settings.readSpelled homes)) entries pairs ∧
          Table.ofPairs pairs = media := by
      rw [DeviceSettings.readMedia, and_then_valid]
      constructor
      · rintro ⟨expanded, found, keyed⟩
        obtain ⟨pairs, all, rfl⟩ := map_eq_valid.mp keyed
        exact ⟨pairs, entries_of_media_valid.mp ⟨expanded, found, all⟩, rfl⟩
      · rintro ⟨pairs, entries, rfl⟩
        obtain ⟨expanded, found, all⟩ := entries_of_media_valid.mpr entries
        exact ⟨expanded, found, map_eq_valid.mpr ⟨pairs, all, rfl⟩⟩
    rw [read]
    constructor
    · rintro ⟨pairs, entries, rfl⟩
      exact .inl ⟨_, pairs, rfl, entries, rfl⟩
    · rintro (⟨_, pairs, same, entries, rfl⟩ | ⟨empty, rfl⟩)
      · cases same
        exact ⟨pairs, entries, rfl⟩
      · rw [List.isEmpty_iff.mp empty]
        exact ⟨[], .nil, rfl⟩
  | _ =>
    unfold DeviceSettings.readMedia
    dsimp only
    split <;> rename_i empty <;> simp [empty, eq_comm]

/-- The media that are read have each reference once. -/
theorem media_keys {media : Table τ (Path τ)}
    (valid : readField fields "media" [] (DeviceSettings.readMedia homes) = .valid media) :
    (media.map Prod.fst).Nodup := by
  rcases read_field_valid valid with absent | ⟨raw, read⟩
  · rw [absent]
    exact List.nodup_nil
  · rcases media_valid.mp read with ⟨entries, pairs, -, -, rfl⟩ | ⟨-, rfl⟩
    · exact Table.nodup_ofPairs pairs
    · exact List.nodup_nil

end CallTone.ReadFields
