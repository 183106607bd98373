import CallTone.Proofs.DeviceConsistency
import CallTone.Proofs.PrintedPaths
import CallTone.Proofs.ReadFields

/-! Settings written back as raw values. What reading does to a raw value it has done
once it is through: each path is under its home and printed as it is read, each table
has its keys once, and the rules have been checked. Settings with these properties are
read from what is written of them, unchanged. -/
namespace CallTone.WrittenSettings
open Settings ValidSections ReadFields DeviceConsistency
open PrintedPaths (Rooted)

variable {τ : Type} [Spelling τ]

/-! Writing -/

/-- What may be absent, with null where it is. -/
def writeOptional (write : α → Value) : Option α → Value
  | none => .null
  | some value => write value

def writeText (written : τ) : Value := .str (Spelling.text written)

def writePath (path : Path τ) : Value := .str path.wide.toText

def writeTexts (texts : List τ) : Value := .list (texts.map writeText)

/-- A table as a map, in its order. -/
def writeTable (write : α → Value) (table : Table τ α) : Value :=
  .map (table.map fun entry => (writeText entry.1, write entry.2))

def writeResolver (resolver : ResolverSettings τ) : Value :=
  .map [(.str "package_name", writeText resolver.packageName),
    (.str "vibration_sound_path", .str resolver.vibrationSoundPath),
    (.str "enforce_thread_check", .bool resolver.enforceThreadCheck)]

def writeUser (user : UserSettings τ) : Value :=
  .map [(.str "id", .int user.id), (.str "unlocked", .bool user.unlocked),
    (.str "managed", .bool user.managed), (.str "enabled", .bool user.enabled),
    (.str "parent", writeOptional .int user.parent),
    (.str "packages", writeOptional writeTexts user.packages),
    (.str "sounds", writeTable writeText user.sounds)]

def writeDevice (device : DeviceSettings τ) : Value :=
  .map [(.str "current_user", .int device.currentUser),
    (.str "ringtone_cache", writeOptional writePath device.ringtoneCache),
    (.str "media", writeTable writePath device.media),
    (.str "users", .list (device.users.map writeUser))]

def writePlayback (playback : PlaybackSettings) : Value :=
  .map [(.str "ramp_ms", writeOptional .int playback.rampMs)]

/-- Settings as a raw value in which every field is given, paths as they are printed. -/
def write (settings : Settings τ) : Value :=
  .map [(.str "resolver", writeResolver settings.resolver),
    (.str "device", writeDevice settings.device),
    (.str "playback", writePlayback settings.playback)]

/-! What reading has settled -/

/-- Reading the print of the path and putting it under its home change nothing more. -/
structure Settled (homes : Path.Homes) (path : Path Text) : Prop where
  printed : Path.ofText path.toText = path
  expanded : path.expandHome homes = .ok path

/-- Of strings, too, a settled path is read from its print. -/
theorem settled_string {path : Path} (settled : Settled homes path.wide) :
    Path.ofString path.toString = path :=
  PrintedPaths.string_read_print settled.printed

/-- A vibration sound is the print of a settled path, where there is any. -/
def SettledVibration (homes : Path.Homes) (text : Text) : Prop :=
  text = ("" : Text) ∨ ∃ path, Settled homes path ∧ path.toText = text

/-- The sounds of a user: each key once, and known. -/
structure SettledUser (user : UserSettings τ) : Prop where
  distinct : (user.sounds.map Prod.fst).Nodup
  known : KnownSounds user

structure SettledDevice (homes : Path.Homes) (device : DeviceSettings τ) : Prop where
  cache : ∀ path ∈ device.ringtoneCache, Settled homes path.wide
  media : ∀ entry ∈ device.media, Settled homes entry.2.wide
  distinct : (device.media.map Prod.fst).Nodup
  users : ∀ user ∈ device.users, SettledUser user
  consistent : device.inconsistency? = none

/-- What holds of settings once they have been read. -/
structure SettledSettings (homes : Path.Homes) (settings : Settings τ) : Prop where
  vibration : SettledVibration homes settings.resolver.vibrationSoundPath
  device : SettledDevice homes settings.device
  ramp : ∀ ms ∈ settings.playback.rampMs, 0 < ms

/-! Reading settles -/

variable [DecidableEq τ]

section
variable {homes : Path.Homes} (rooted : Rooted homes)
include rooted

omit [Spelling τ] [DecidableEq τ] in
theorem expanded_settled (valid : Settings.expandPath homes text = .valid path) :
    Settled homes path := by
  have known := expand_valid.mp valid
  exact ⟨PrintedPaths.read_print_expanded known, PrintedPaths.expanded_once rooted known⟩

omit [DecidableEq τ] in
theorem path_settled {path : Path τ} (valid : Settings.readSpelled homes raw = .valid path) :
    Settled homes path.wide := by
  obtain ⟨text, expanded⟩ := path_valid (read_spelled_valid.mp valid)
  exact expanded_settled rooted expanded

omit [Spelling τ] [DecidableEq τ] in
theorem vibration_settled (valid : ResolverSettings.readVibration homes raw = .valid text) :
    SettledVibration homes text := by
  obtain ⟨given, -, checked⟩ := and_then_valid.mp valid
  split at checked
  next empty =>
    cases checked
    exact .inl empty
  next =>
    obtain ⟨path, expanded, printed⟩ := map_eq_valid.mp checked
    exact .inr ⟨path, expanded_settled rooted expanded, printed⟩

theorem media_settled {media : Table τ (Path τ)}
    (valid : DeviceSettings.readMedia homes raw = .valid media) :
    ∀ entry ∈ media, Settled homes entry.2.wide := by
  intro entry member
  rcases media_valid.mp valid with ⟨entries, pairs, rfl, read, rfl⟩ | ⟨-, rfl⟩
  · obtain ⟨raw, -, -, found⟩ := item_of_value read (Table.mem_ofPairs pairs entry member)
    exact path_settled rooted found
  · cases member

omit rooted [DecidableEq τ] in
theorem soundless_settled {user : UserSettings τ} (absent : user.sounds = []) :
    SettledUser user := by
  refine ⟨?_, fun key member => ?_⟩
  · rw [absent]
    exact List.nodup_nil
  · rw [keysOf, absent] at member
    cases member

omit rooted in
theorem user_settled {user : UserSettings τ} (valid : UserSettings.read raw = .valid user) :
    SettledUser user := by
  obtain ⟨fields, -, -, -, -, -, -, -, sounding⟩ := user_valid.mp valid
  rcases read_field_valid sounding with absent | ⟨raw, read⟩
  · exact soundless_settled absent
  · obtain ⟨table, tabled, checked⟩ := and_then_valid.mp read
    obtain ⟨entries, pairs, -, -, made⟩ := map_valid.mp tabled
    split at checked
    next known =>
      have same : table = user.sounds := by
        cases checked
        rfl
      rw [same] at known made
      refine ⟨?_, (known_iff user).mpr known⟩
      rw [← made]
      exact Table.nodup_ofPairs pairs
    next => cases checked

theorem device_settled {device : DeviceSettings τ}
    (valid : DeviceSettings.read homes raw = .valid device) : SettledDevice homes device := by
  obtain ⟨fields, -, -, cached, stocked, peopled, consistent⟩ := device_valid.mp valid
  refine ⟨fun path held => ?_, ?_, media_keys stocked, fun user member => ?_, consistent⟩
  · rw [Option.mem_def.mp held] at cached
    rcases read_field_valid cached with absent | ⟨raw, read⟩
    · cases absent
    · exact path_settled rooted (cache_valid read)
  · rcases read_field_valid stocked with absent | ⟨raw, read⟩
    · rw [absent]
      nofun
    · exact media_settled rooted read
  · rcases read_field_valid peopled with absent | ⟨raw, read⟩
    · rw [absent] at member
      cases List.mem_singleton.mp member
      exact soundless_settled rfl
    · obtain ⟨items, -, users⟩ := list_valid.mp read
      obtain ⟨item, -, found⟩ := item_of_value users member
      exact user_settled found

/-- Reading settles: what it yields has been put into its final form and checked. -/
theorem settings_settled {settings : Settings τ}
    (valid : Settings.read homes raw = .valid settings) : SettledSettings homes settings := by
  obtain ⟨fields, -, resolved, wired, -⟩ := settings_valid.mp valid
  refine ⟨?_, ?_, ?_⟩
  · rcases read_field_valid resolved with absent | ⟨raw, read⟩
    · rw [absent]
      exact .inl rfl
    · obtain ⟨fields, -, -, vibrates, -⟩ := resolver_valid.mp read
      rcases read_field_valid vibrates with absent | ⟨raw, read⟩
      · exact .inl absent
      · exact vibration_settled rooted read
  · rcases read_field_valid wired with absent | ⟨raw, read⟩
    · rw [absent]
      exact {
        cache := nofun
        media := nofun
        distinct := List.nodup_nil
        users := List.forall_mem_singleton.mpr (soundless_settled rfl)
        consistent := rfl }
    · exact device_settled rooted read
  · exact validated_ramp valid

end

/-! What is settled is read as it is -/

omit [DecidableEq τ] in
theorem path_reread {path : Path τ} (settled : Settled homes path.wide) :
    Settings.readSpelled homes (writePath path) = .valid path := by
  refine read_spelled_valid.mpr (expand_valid.mpr ?_)
  rw [settled.printed]
  exact settled.expanded

omit [Spelling τ] [DecidableEq τ] in
theorem vibration_reread (settled : SettledVibration homes text) :
    ResolverSettings.readVibration homes (.str text) = .valid text := by
  refine and_then_valid.mpr ⟨text, rfl, ?_⟩
  split
  next => rfl
  next given =>
    obtain ⟨path, known, rfl⟩ := settled.resolve_left given
    refine map_eq_valid.mpr ⟨path, expand_valid.mpr ?_, rfl⟩
    rw [known.printed]
    exact known.expanded

theorem optional_reread {read : Value → Checked α} {write : α → Value}
    (present : ∀ value, write value ≠ .null) {option : Option α}
    (each : ∀ value ∈ option, read (write value) = .valid value) :
    readOptional read (writeOptional write option) = .valid option := by
  cases option with
  | none => rfl
  | some value =>
    have found : (read (write value)).map some = .valid (some value) := by
      rw [each value rfl]
      rfl
    rw [writeOptional]
    unfold readOptional
    split
    next null => exact absurd null (present value)
    next => exact found

theorem list_reread {read : Value → Checked α} {write : α → Value}
    (each : ∀ value ∈ values, read (write value) = .valid value) :
    readList read (.list (values.map write)) = .valid values := by
  refine list_valid.mpr ⟨_, rfl, ?_⟩
  rw [List.forall₂_map_left_iff]
  exact List.forall₂_same.mpr each

omit [DecidableEq τ] in
theorem text_reread (written : τ) : readText (writeText written) = .valid written :=
  spell_valid.mpr rfl

omit [DecidableEq τ] in
theorem entries_reread {table : Table τ α} {read : Value → Checked α} {write : α → Value}
    (each : ∀ entry ∈ table, read (write entry.2) = .valid entry.2) :
    List.Forall₂ (EntryYields read)
      (table.map fun entry => (writeText entry.1, write entry.2)) table := by
  rw [List.forall₂_map_left_iff]
  exact List.forall₂_same.mpr fun entry member => ⟨text_reread entry.1, each entry member⟩

theorem sounds_reread {user : UserSettings τ} (settled : SettledUser user) :
    UserSettings.readSounds (writeTable writeText user.sounds) = .valid user.sounds := by
  have tabled : readMap readText (writeTable writeText user.sounds) = .valid user.sounds :=
    map_valid.mpr ⟨_, _, rfl, entries_reread fun _ _ => text_reread _,
      Table.ofPairs_self settled.distinct⟩
  refine and_then_valid.mpr ⟨user.sounds, tabled, ?_⟩
  rw [(known_iff user).mp settled.known]

theorem user_reread {user : UserSettings τ} (settled : SettledUser user) :
    UserSettings.read (writeUser user) = .valid user := by
  refine user_valid.mpr ⟨_, rfl, rfl, rfl, rfl, rfl, ?_, ?_, ?_⟩
  · exact field_valid rfl (optional_reread nofun fun _ _ => rfl)
  · exact field_valid rfl (optional_reread nofun fun _ _ => list_reread fun _ _ => text_reread _)
  · exact field_valid rfl (sounds_reread settled)

theorem device_reread {device : DeviceSettings τ} (settled : SettledDevice homes device) :
    DeviceSettings.read homes (writeDevice device) = .valid device := by
  refine device_valid.mpr ⟨_, rfl, rfl, ?_, ?_, ?_, settled.consistent⟩
  · refine field_valid rfl ?_
    cases held : device.ringtoneCache with
    | none => rfl
    | some path => exact map_eq_valid.mpr ⟨path, path_reread (settled.cache path held), rfl⟩
  · refine field_valid rfl (media_valid.mpr (.inl ⟨_, device.media, rfl, ?_, ?_⟩))
    · exact entries_reread fun entry member => path_reread (settled.media entry member)
    · exact Table.ofPairs_self settled.distinct
  · exact field_valid rfl (list_reread fun user member => user_reread (settled.users user member))

omit [DecidableEq τ] in
theorem resolver_reread {resolver : ResolverSettings τ}
    (settled : SettledVibration homes resolver.vibrationSoundPath) :
    ResolverSettings.read homes (writeResolver resolver) = .valid resolver := by
  refine resolver_valid.mpr ⟨_, rfl, field_valid rfl (text_reread _), ?_, rfl⟩
  exact field_valid rfl (vibration_reread settled)

theorem playback_reread {playback : PlaybackSettings}
    (settled : ∀ ms ∈ playback.rampMs, 0 < ms) :
    PlaybackSettings.read (writePlayback playback) = .valid playback := by
  refine playback_valid.mpr ⟨_, rfl, field_valid rfl (and_then_valid.mpr ⟨playback.rampMs, ?_, ?_⟩)⟩
  · exact optional_reread nofun fun _ _ => rfl
  · cases given : playback.rampMs with
    | none => rfl
    | some ms => exact if_neg (Int.not_le.mpr (settled ms given))

theorem settings_reread {settings : Settings τ} (settled : SettledSettings homes settings) :
    Settings.read homes (write settings) = .valid settings :=
  settings_valid.mpr ⟨_, rfl, field_valid rfl (resolver_reread settled.vibration),
    field_valid rfl (device_reread settled.device),
    field_valid rfl (playback_reread settled.ramp)⟩

/-- Reading changes settings once. What it yields of a raw value it yields again of what
is written of it, when homes are given from the root, and by then there is no path that
reading its print, or putting it under the home, would change. -/
theorem reading_is_idempotent (rooted : Rooted homes) {settings : Settings τ}
    (valid : Settings.read homes raw = .valid settings) :
    Settings.read homes (write settings) = .valid settings ∧
      SettledVibration homes settings.resolver.vibrationSoundPath ∧
      (∀ path ∈ settings.device.ringtoneCache, Settled homes path.wide) ∧
      ∀ entry ∈ settings.device.media, Settled homes entry.2.wide := by
  have settled : SettledSettings homes settings := settings_settled rooted valid
  exact ⟨settings_reread settled, settled.vibration, settled.device.cache, settled.device.media⟩

/-- Settings whose paths are not written as they are printed. -/
def looseSettings : Value :=
  .map [(.str "resolver", .map [(.str "vibration_sound_path", .str "./~/x")]),
    (.str "device", .map [(.str "ringtone_cache", .str ""),
      (.str "media", .map [(.str "content://media/1", .str "//x"), (.str "content://media/2", .str "."),
        (.octets [97], .str "~//y/../z/")])])]

theorem loose_settings_reread :
    ∃ settings, Settings.read "/home/ring/" looseSettings = .valid settings ∧
      settings.resolver.vibrationSoundPath = "/home/ring/x" ∧
      settings.device.media.map (fun entry => entry.2.toString) =
        ["//x", ".", "/home/ring/y/../z"] ∧
      Settings.read "/home/ring/" (write settings) = .valid settings := by
  obtain ⟨settings, valid⟩ : ∃ settings,
      Settings.read "/home/ring/" looseSettings = .valid settings := ⟨_, rfl⟩
  have rooted : Rooted "/home/ring/" := by
    intro name home known
    obtain ⟨-, same⟩ := Option.ite_none_right_eq_some.mp known
    rw [← Option.some.inj same]
    rfl
  have again := (reading_is_idempotent rooted valid).1
  refine ⟨settings, valid, ?_, ?_, again⟩
  · cases valid
    decide
  · cases valid
    decide

end CallTone.WrittenSettings
