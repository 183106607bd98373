import CallTone.Proofs.FileReferences
import CallTone.Proofs.RegisteredUsers
import CallTone.Proofs.ReportLines

/-! When the health report breaks off. A sound that cannot be loaded is an error line
as long as its failure is one of the ringtone parts' own. Two failures are not: that
of a reference which cannot be split into parts, and that of a file whose reading
fails neither in decoding nor in the system. The first sound with one of them takes
the whole report with it, and before any sound is tried so does a vibration path that
cannot be encoded. -/
namespace CallTone.ReportBreaks
open RegisteredUsers ReportLines SoundPlaces ValidatedUsers

variable {app : App}

/-! One sound -/

/-- Whether the engine leaves a failure of reading a file as it is and the report does
not know it. -/
def escapes (kind : Failure.Kind) : Bool :=
  kind ≠ .decoding && !kind.isSystemKind && !kind.isRingtoneKind

/-- The failure that the file at a path breaks a report off with. -/
def fileBreak? (files : Files) (path : Path) : Option Failure :=
  match files.get? path.toString with
  | some (.unreadable failure) => if escapes failure.kind then some failure else none
  | _ => none

/-- The failure that a reference breaks the report off with: that of its parts, or that
of the file at its place. -/
def break? (app : App) (uri : String) : Option Failure :=
  match Uri.parse uri with
  | .error fault => some ⟨.value, fault.message⟩
  | .ok _ => (placeOf app.device.locate app.device.baseContext uri).bind (fileBreak? app.files)

/-- The failure of an outcome that a report does not know. -/
def unknown? (outcome : Except Failure α) : Option Failure :=
  match outcome with
  | .error failure => if failure.kind.isRingtoneKind then none else some failure
  | .ok _ => none

/-- The result is the failure that breaks it off, if there is one, and else a value. -/
inductive EndsBy : Option Failure → Except Failure α → Prop where
  | broken (failure : Failure) : EndsBy (some failure) (.error failure)
  | value (value : α) : EndsBy none (.ok value)

theorem open_file_breaks (files : Files) (uri : String) (path : Path) :
    unknown? (Engine.openFile files uri path) = fileBreak? files path := by
  unfold Engine.openFile fileBreak?
  cases files.get? path.toString with
  | none => rfl
  | some entry =>
    cases entry with
    | unreadable failure =>
      dsimp only
      by_cases absorbed : failure.kind = .decoding ∨ failure.kind.isSystemKind = true
      · have stays : escapes failure.kind = false := by
          rcases absorbed with decoding | system
          · simp [escapes, decoding]
          · simp [escapes, system]
        rw [if_pos absorbed, stays]
        rfl
      · have leaves : escapes failure.kind = !failure.kind.isRingtoneKind := by
          rw [not_or, Bool.not_eq_true] at absorbed
          simp [escapes, absorbed]
        rw [if_neg absorbed, leaves, unknown?]
        cases failure.kind.isRingtoneKind <;> rfl
    | _ => rfl

/-- What trying a reference comes to, as far as the report does not know it. -/
theorem load_breaks (app : App) (uri : String) :
    unknown? (app.load app.device.baseContext uri none (AudioAttributes.ringtone false)).outcome =
      break? app uri := by
  have opened (path : Path) (asked : List (Context × String)) :
      unknown? (Engine.loadAt app.files uri path none (AudioAttributes.ringtone false)
        asked).outcome = fileBreak? app.files path := by
    rw [(load_at_outcome ..).2, ← open_file_breaks app.files uri path]
    cases Engine.openFile app.files uri path <;> rfl
  unfold App.load Engine.load break? placeOf Engine.target
  cases Uri.parse uri with
  | error fault => rfl
  | ok parsed =>
    dsimp only
    by_cases named : parsed.scheme = "file"
    · rw [if_pos named]
      cases Text.Percent.decode (parsed.authority ++ parsed.path).toList with
      | nil => rfl
      | cons first rest => exact opened (Path.ofChars (first :: rest)) []
    · rw [if_neg named]
      dsimp only
      cases app.device.locate app.device.baseContext uri with
      | none => rfl
      | some path => exact opened path [(app.device.baseContext, uri)]

/-- The line about a sound is there unless the sound breaks the report off. -/
theorem sound_line_breaks (app : App) (label uri : String) :
    EndsBy (break? app uri) (app.soundLine label uri).result := by
  rw [← load_breaks]
  unfold App.soundLine
  dsimp only
  cases (app.load app.device.baseContext uri none (AudioAttributes.ringtone false)).outcome with
  | ok ringtone => exact .value _
  | error failure =>
    dsimp only [unknown?]
    cases failure.kind.isRingtoneKind with
    | true => exact .value _
    | false => exact .broken failure

/-- A configured path that is a string never breaks the report off by itself: the file
at the path decides. -/
theorem path_breaks (app : App) (given : path ≠ "") :
    break? app (Uri.ofFile path) = fileBreak? app.files (Path.ofString path) := by
  have loaded := load_breaks app (Uri.ofFile path)
  rw [← loaded, App.load, Engine.load, FileReferences.target_of_path given,
    ← open_file_breaks app.files (Uri.ofFile path)]
  dsimp only
  rw [(load_at_outcome ..).2]
  cases Engine.openFile app.files (Uri.ofFile path) (Path.ofString path) <;> rfl

/-! The whole report -/

/-- The vibration sound that the report tries, under its label: that at the configured
path, if there is one. -/
def vibrationTried? (app : App) : Option (String × String) :=
  match app.settings.resolver.vibrationSoundPath.strict with
  | .error _ => none
  | .ok path => if path = "" then none else some ("Vibration sound", Uri.ofFile path)

/-- The failure of a vibration path that cannot be encoded. -/
def pathBreak? (app : App) : Option Failure :=
  match app.settings.resolver.vibrationSoundPath.strict with
  | .error stray => some (Uri.unencodable stray)
  | .ok _ => none

/-- The default ringtone that the report tries, under its label: what the session's
user has set, while it is unlocked. -/
def defaultTried? (app : App) : Option (String × String) :=
  if app.device.isUnlocked app.device.currentUser.identifier then
    (app.device.actualDefault app.device.baseContext .ringtone).map fun uri =>
      ("Default ringtone", uri)
  else none

/-- The sounds that the report tries, in their order. -/
def tried (app : App) : List (String × String) :=
  (vibrationTried? app).toList ++ (defaultTried? app).toList

/-- The failure that the report breaks off with: that of the vibration path, or that of
the first sound that has one. -/
def firstBreak? (app : App) : Option Failure :=
  (pathBreak? app).or ((tried app).findSome? fun sound => break? app sound.2)

theorem vibration_line_breaks (app : App) :
    EndsBy ((pathBreak? app).or ((vibrationTried? app).bind fun sound => break? app sound.2))
      app.vibrationLine.result := by
  unfold pathBreak? vibrationTried? App.vibrationLine
  cases app.settings.resolver.vibrationSoundPath.strict with
  | error stray => exact .broken _
  | ok path =>
    dsimp only
    split_ifs with empty
    · exact .value _
    · rw [Option.bind_some, Option.none_or]
      exact sound_line_breaks app "Vibration sound" _

theorem default_line_breaks (app : App) :
    EndsBy ((defaultTried? app).bind fun sound => break? app sound.2) app.defaultLine.result := by
  unfold defaultTried? App.defaultLine
  split_ifs with unlocked
  · cases app.device.actualDefault app.device.baseContext .ringtone with
    | none => exact .value _
    | some uri => exact sound_line_breaks app "Default ringtone" uri
  · exact .value _

/-- Once the profiles are listed, the report ends as the sounds that it tries do. -/
theorem report_breaks
    (listed : app.device.enabledProfiles app.device.currentUser.identifier = .ok profiles) :
    EndsBy (firstBreak? app) app.report.result := by
  have first : firstBreak? app =
      ((pathBreak? app).or ((vibrationTried? app).bind fun sound => break? app sound.2)).or
        ((defaultTried? app).bind fun sound => break? app sound.2) := by
    rw [firstBreak?, tried, List.findSome?_append, Option.or_assoc]
    cases vibrationTried? app <;> cases defaultTried? app <;> simp
  have vibration := vibration_line_breaks app
  have default := default_line_breaks app
  rw [first]
  unfold App.report
  rw [listed]
  dsimp only
  generalize (pathBreak? app).or _ = vibrationBreak at vibration ⊢
  generalize (defaultTried? app).bind _ = defaultBreak at default ⊢
  generalize app.vibrationLine = vibrationLine at vibration ⊢
  generalize app.defaultLine = defaultLine at default ⊢
  obtain ⟨vibrated, before⟩ := vibrationLine
  obtain ⟨defaulted, after⟩ := defaultLine
  cases vibration with
  | broken failure => exact .broken failure
  | value line =>
    cases default with
    | broken failure => exact .broken failure
    | value other => exact .value _

/-- The report fails with the failure of the first sound that has one, and is there when
no sound has one. -/
theorem report_ends
    (listed : app.device.enabledProfiles app.device.currentUser.identifier = .ok profiles) :
    (∀ failure, app.report.result = .error failure ↔ firstBreak? app = some failure) ∧
      ((∃ report, app.report.result = .ok report) ↔ firstBreak? app = none) := by
  have ended := report_breaks listed
  generalize app.report.result = result at ended ⊢
  generalize firstBreak? app = first at ended ⊢
  cases ended with
  | broken own => simp
  | value report => simp

/-- In a report every sound that was tried is told by the line under its label. -/
theorem tried_told (returned : app.report.result = .ok report) (among : sound ∈ tried app) :
    ∃ line, lineOf? report sound.1 = some line ∧
      Told sound.1 (playsAt? app app.device.baseContext sound.2) line := by
  obtain ⟨vibration, ringtone, lines⟩ := report_lines returned
  rcases List.mem_append.mp among with isVibration | isDefault
  · rw [Option.mem_toList] at isVibration
    refine ⟨vibration, ?_⟩
    unfold vibrationTried? at isVibration
    cases lines.vibrationTold with
    | unset empty message => simp [empty] at isVibration
    | tried configured given told =>
      rw [configured, Text.strict_ofString] at isVibration
      dsimp only at isVibration
      rw [if_neg given] at isVibration
      cases isVibration
      exact ⟨lines.vibrationThere, told⟩
  · rw [Option.mem_toList] at isDefault
    refine ⟨ringtone, ?_⟩
    unfold defaultTried? at isDefault
    cases lines.defaultTold with
    | locked locked message => simp [locked] at isDefault
    | unset unlocked unset message => simp [unset] at isDefault
    | tried unlocked set told =>
      rw [if_pos unlocked, set] at isDefault
      cases isDefault
      exact ⟨lines.defaultThere, told⟩

/-- The session's user of a wired application is known, so its profiles are listed. -/
theorem wired_profiles (valid : Settings.read homes raw = .valid settings) (guard : Option Guard)
    (files : Files) :
    let app := App.wire settings guard files
    ∃ profiles, app.device.enabledProfiles app.device.currentUser.identifier = .ok profiles := by
  intro app
  have registered : Registered app := wired_registered valid guard files
  obtain ⟨user, among, same⟩ := List.mem_map.mp (validated_current valid)
  have known : app.device.user? app.device.currentUser.identifier = some user := by
    rw [registered_user registered, ← configured_member registered among, same]
    rfl
  unfold Device.enabledProfiles
  rw [known]
  exact ⟨_, rfl⟩

/-- An application that is wired from validated settings reports on every sound that
it tries, unless its vibration path cannot be encoded or one of them breaks the report
off; then the failure is that of the path or of the first such sound. A vibration path
that is a string does so only by the file that stands there. -/
theorem wired_report_breaks (valid : Settings.read homes raw = .valid settings)
    (guard : Option Guard) (files : Files) :
    let app := App.wire settings guard files
    (∀ failure, app.report.result = .error failure ↔ firstBreak? app = some failure) ∧
    ((∃ report, app.report.result = .ok report) ↔ firstBreak? app = none) ∧
    (∀ report, app.report.result = .ok report → ∀ sound ∈ tried app,
      ∃ line, lineOf? report sound.1 = some line ∧
        Told sound.1 (playsAt? app app.device.baseContext sound.2) line) ∧
    ∀ path ≠ "", break? app (Uri.ofFile path) = fileBreak? files (Path.ofString path) := by
  intro app
  obtain ⟨profiles, listed⟩ := wired_profiles valid guard files
  obtain ⟨fails, returns⟩ := report_ends listed
  exact ⟨fails, returns, fun report returned sound among => tried_told returned among,
    fun path given => path_breaks app given⟩

/-- Settings with a vibration sound and a ringtone of the only user, as they are
written. -/
def soundSettings (vibration ringtone : String) : Value :=
  .map [(.str "resolver", .map [(.str "vibration_sound_path", .str vibration)]),
    (.str "device", .map [(.str "users", .list
      [.map [(.str "id", .int 0), (.str "sounds", .map [(.str "ringtone", .str ringtone)])]])])]

/-- A vibration sound that cannot be decoded is told and does not keep the report from
the ringtone, which breaks it off when its file fails in another way. -/
theorem undecodable_told_until_ringtone_breaks :
    let settings : Settings := { resolver := { vibrationSoundPath := "/buzz.ogg" }, device := {
      users := [⟨0, true, false, true, none, none, [("ringtone", "file:///ring.ogg")]⟩] } }
    let app (ring : FileEntry) := App.wire settings none
      [("/buzz.ogg", .unreadable ⟨.decoding, "no sync"⟩), ("/ring.ogg", ring)]
    Settings.read "/home/tester" (soundSettings "/buzz.ogg" "file:///ring.ogg") = .valid settings ∧
      (∃ report line, (app .noInfo).report.result = .ok report ∧
        lineOf? report "Vibration sound" = some line ∧ line.status = .error) ∧
      (app (.unreadable ⟨.runtime, "no frame"⟩)).report.result =
        .error ⟨.runtime, "no frame"⟩ := by
  intro settings app
  have valid : Settings.read "/home/tester" (soundSettings "/buzz.ogg" "file:///ring.ogg") =
      .valid settings := by
    with_unfolding_all rfl
  have unbroken : firstBreak? (app .noInfo) = none := by decide
  have broken : firstBreak? (app (.unreadable ⟨.runtime, "no frame"⟩)) =
      some ⟨.runtime, "no frame"⟩ := by decide
  obtain ⟨-, returns, told, -⟩ := wired_report_breaks valid none
    [("/buzz.ogg", .unreadable ⟨.decoding, "no sync"⟩), ("/ring.ogg", .noInfo)]
  obtain ⟨report, returned⟩ := returns.mpr unbroken
  obtain ⟨line, there, tells⟩ := told report returned ("Vibration sound", "file:///buzz.ogg")
    (by decide)
  have silent : line.status = .error := by
    cases tells
    rfl
  obtain ⟨fails, -⟩ := wired_report_breaks valid none
    [("/buzz.ogg", .unreadable ⟨.decoding, "no sync"⟩),
      ("/ring.ogg", .unreadable ⟨.runtime, "no frame"⟩)]
  exact ⟨valid, ⟨report, line, returned, there, silent⟩, (fails _).mpr broken⟩

/-- An authority with an open bracket, set as ringtone, breaks the report off, though
the settings are valid. -/
theorem bracketed_ringtone_breaks_report :
    ¬ ∀ (home : String) (raw : Value) (settings : Settings) (files : Files),
      Settings.read home raw = .valid settings →
      ∃ report, (App.wire settings none files).report.result = .ok report := by
  intro always
  let settings : Settings := { device := { users :=
    [⟨0, true, false, true, none, none, [("ringtone", "file://[")]⟩] } }
  have valid : Settings.read "/home/tester" (soundSettings "" "file://[") = .valid settings := by
    with_unfolding_all rfl
  have broken : (App.wire settings none []).report.result =
      .error ⟨.value, "Invalid IPv6 URL"⟩ := by decide
  obtain ⟨report, returned⟩ := always _ _ _ [] valid
  rw [broken] at returned
  cases returned

end CallTone.ReportBreaks
