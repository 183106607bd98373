import CallTone.Proofs.AppAnswers
import CallTone.Proofs.SoundPlaces
import CallTone.Report

/-! What the lines of the health report say. The line about a sound passes with the
path from which the sound plays, or else is an error line; where a sound plays from
depends on no volume curve, no attributes and no package. The lines stand under
labels of their own, and only those about the package and the two sounds can be
error lines. -/
namespace CallTone.ReportLines
open SoundPlaces
open Report (Line)

variable {app : App}

/-! Where a sound plays from -/

/-- The path of the file that a reference plays for the user of a context. -/
def playsAt? (app : App) (context : Context) (uri : String) : Option Path :=
  (placeOf app.device.locate context uri).filter fun path =>
    (Engine.openFile app.files uri path).isOk

/-- A handle is loaded exactly from there, whatever is asked of it. -/
theorem loaded_path (app : App) (context : Context) (uri : String) (shaper : Option VolumeShaper)
    (attributes : AudioAttributes) :
    (app.load context uri shaper attributes).outcome.toOption.map LoadedRingtone.path =
      playsAt? app context uri := by
  rw [App.load, loaded_handle, playsAt?]
  cases placeOf app.device.locate context uri with
  | none => rfl
  | some path =>
    rw [Option.bind_some, handleAt, Option.filter_some]
    cases Engine.openFile app.files uri path <;> rfl

/-- It is the same for all contexts of a user. -/
theorem plays_for_user (app : App) (uri : String) (same : mirror.userId = context.userId) :
    playsAt? app mirror uri = playsAt? app context uri := by
  have place : placeOf app.device.locate mirror uri = placeOf app.device.locate context uri := by
    unfold placeOf Device.locate Device.actualDefault
    rw [same]
  rw [playsAt?, place, playsAt?]

/-! The lines about the sounds -/

/-- What a line tells of a sound: it passes with the path from which the sound plays,
or it is an error line with a message. -/
inductive Told (label : String) : Option Path → Line → Prop where
  | plays (path : Path) : Told label (some path) ⟨label, .passed, some path.toString⟩
  | silent (message : String) : Told label none ⟨label, .error, some message⟩

theorem sound_line_told (returned : (app.soundLine label uri).result = .ok line) :
    Told label (playsAt? app app.device.baseContext uri) line := by
  rw [← loaded_path app app.device.baseContext uri none (AudioAttributes.ringtone false)]
  unfold App.soundLine at returned
  dsimp only at returned
  cases loaded : (app.load app.device.baseContext uri none
      (AudioAttributes.ringtone false)).outcome with
  | ok ringtone =>
    rw [loaded] at returned
    cases returned
    exact .plays ringtone.path
  | error failure =>
    rw [loaded] at returned
    dsimp only at returned
    split at returned
    · cases returned
      exact .silent failure.message
    · cases returned

/-- The line about the vibration sound tells it when a path is configured, and warns
when none is. -/
inductive VibrationTold (app : App) : Line → Prop where
  | unset (empty : app.settings.resolver.vibrationSoundPath = "") (message : String) :
      VibrationTold app ⟨"Vibration sound", .warning, some message⟩
  | tried (configured : app.settings.resolver.vibrationSoundPath = Text.ofString path)
      (given : path ≠ "")
      (told : Told "Vibration sound" (playsAt? app app.device.baseContext (Uri.ofFile path)) line) :
      VibrationTold app line

/-- The line about the default ringtone tells what an unlocked user has set, and warns
when nothing is set or the user is locked. -/
inductive DefaultTold (app : App) : Line → Prop where
  | locked (locked : app.device.isUnlocked app.device.currentUser.identifier = false)
      (message : String) : DefaultTold app ⟨"Default ringtone", .warning, some message⟩
  | unset (unlocked : app.device.isUnlocked app.device.currentUser.identifier = true)
      (unset : app.device.actualDefault app.device.baseContext .ringtone = none)
      (message : String) : DefaultTold app ⟨"Default ringtone", .warning, some message⟩
  | tried (unlocked : app.device.isUnlocked app.device.currentUser.identifier = true)
      (set : app.device.actualDefault app.device.baseContext .ringtone = some uri)
      (told : Told "Default ringtone" (playsAt? app app.device.baseContext uri) line) :
      DefaultTold app line

theorem vibration_line_told (returned : app.vibrationLine.result = .ok line) :
    VibrationTold app line := by
  unfold App.vibrationLine at returned
  split at returned
  next => cases returned
  next path written =>
    have configured := (Text.strict_eq_ok.mp written).symm
    split at returned
    next empty =>
      cases returned
      exact .unset (empty ▸ configured) _
    next given => exact .tried configured given (sound_line_told returned)

theorem default_line_told (returned : app.defaultLine.result = .ok line) :
    DefaultTold app line := by
  unfold App.defaultLine at returned
  split at returned
  next unlocked =>
    split at returned
    next unset =>
      cases returned
      exact .unset unlocked unset _
    next uri set => exact .tried unlocked set (sound_line_told returned)
  next locked =>
    cases returned
    exact .locked (Bool.not_eq_true _ ▸ locked) _

theorem told_label (told : Told label path line) : line.label = label := by
  cases told <;> rfl

theorem vibration_label (told : VibrationTold app line) : line.label = "Vibration sound" := by
  cases told with
  | unset _ message => rfl
  | tried _ _ told => exact told_label told

/-- A line about the vibration sound is told only of a path that is a string. -/
theorem told_path (told : VibrationTold app line) :
    ∃ path, app.settings.resolver.vibrationSoundPath = Text.ofString path := by
  cases told with
  | unset empty message => exact ⟨"", empty⟩
  | tried configured _ _ => exact ⟨_, configured⟩

theorem default_label (told : DefaultTold app line) : line.label = "Default ringtone" := by
  cases told with
  | locked _ message => rfl
  | unset _ _ message => rfl
  | tried _ _ told => exact told_label told

/-! The whole report -/

/-- The line of a report under a label. -/
def lineOf? (report : Report) (label : String) : Option Line :=
  report.lines.find? fun line => line.label = label

/-- What a returned report has under the labels that can stand for an error. -/
structure Lines (app : App) (report : Report) (vibration ringtone : Line) : Prop where
  packageThere : lineOf? report "Package" = some app.packageLine
  vibrationThere : lineOf? report "Vibration sound" = some vibration
  vibrationTold : VibrationTold app vibration
  defaultThere : lineOf? report "Default ringtone" = some ringtone
  defaultTold : DefaultTold app ringtone
  ok : report.ok = true ↔
    ∀ line ∈ [app.packageLine, vibration, ringtone], line.status ≠ .error

theorem package_label (app : App) : app.packageLine.label = "Package" := by
  unfold App.packageLine
  split <;> rfl

/-- The line about the work profile stands under its own label and is no error. -/
theorem work_profile_line (app : App) (profiles : List ProfileInfo) :
    (app.workProfileLine profiles).label = "Work profile" ∧
      (app.workProfileLine profiles).status ≠ .error := by
  unfold App.workProfileLine
  split <;> exact ⟨rfl, nofun⟩

/-- A line about the cache is no error. -/
theorem cache_lines (app : App) : ∀ line ∈ app.cacheLines, line.status ≠ .error := by
  unfold App.cacheLines
  repeat' split
  all_goals simp [App.cacheWarning]

theorem cache_label (app : App) : ∀ line ∈ app.cacheLines, line.label = "Ringtone cache" := by
  unfold App.cacheLines
  repeat' split
  all_goals simp [App.cacheWarning]

/-- What a line with a detail prints. -/
theorem text_detail (label : String) (status : Report.Status) (given : detail ≠ "") :
    Line.text ⟨label, status, some detail⟩ =
      label ++ ": " ++ status.word ++ " (" ++ detail ++ ")" := by
  rw [Line.text]
  exact if_neg given

theorem head_append (rest : String) (starts : start.toList.head? = some first) :
    (start ++ rest).toList.head? = some first := by
  rw [String.toList_append, List.head?_append, starts]
  rfl

/-- What a line prints starts as its label does. -/
theorem text_head (line : Line) (labelled : line.label ≠ "") :
    line.text.toList.head? = line.label.toList.head? := by
  have begins : ∃ rest, line.text = line.label ++ rest := by
    unfold Line.text
    dsimp only
    split
    · exact ⟨_, String.append_assoc⟩
    · split
      · exact ⟨_, String.append_assoc⟩
      · exact ⟨_, by simp only [String.append_assoc]; rfl⟩
  obtain ⟨rest, text⟩ := begins
  have some_head : line.label.toList ≠ [] := by simpa using labelled
  obtain ⟨first, starts⟩ := Option.ne_none_iff_exists'.mp (mt List.head?_eq_none_iff.mp some_head)
  rw [text, starts]
  exact head_append rest starts

/-- The lines of a returned report, in their order. -/
theorem returned_report (returned : app.report.result = .ok report) :
    ∃ profiles vibration ringtone,
      app.device.enabledProfiles app.device.currentUser.identifier = .ok profiles ∧
      VibrationTold app vibration ∧ DefaultTold app ringtone ∧
      report.lines = [app.usersLine, app.packageLine, app.workProfileLine profiles, vibration,
        ringtone] ++ app.cacheLines := by
  unfold App.report at returned
  cases listed : app.device.enabledProfiles app.device.currentUser.identifier with
  | error failure => simp [listed] at returned
  | ok profiles =>
    simp only [listed] at returned
    cases vibrated : app.vibrationLine.result with
    | error failure => simp [vibrated] at returned
    | ok vibration =>
      simp only [vibrated] at returned
      cases defaulted : app.defaultLine.result with
      | error failure => simp [defaulted, Except.map] at returned
      | ok ringtone =>
        rw [defaulted] at returned
        cases returned
        exact ⟨profiles, vibration, ringtone, rfl, vibration_line_told vibrated,
          default_line_told defaulted, rfl⟩

/-- A returned report has the line about the work profile, lines about the cache, and
others under labels of their own. -/
theorem line_cases (returned : app.report.result = .ok report) :
    ∃ profiles, app.device.enabledProfiles app.device.currentUser.identifier = .ok profiles ∧
      app.workProfileLine profiles ∈ report.lines ∧ ∀ line ∈ report.lines,
        line.label ∈ ["Users", "Package", "Vibration sound", "Default ringtone"] ∨
          line = app.workProfileLine profiles ∨ line ∈ app.cacheLines := by
  obtain ⟨profiles, vibration, ringtone, listed, vibrationTold, defaultTold, lines⟩ :=
    returned_report returned
  refine ⟨profiles, listed, by simp [lines], fun line among => ?_⟩
  rw [lines, List.mem_append] at among
  rcases among with own | cache
  · simp only [List.mem_cons, List.not_mem_nil, or_false] at own
    rcases own with rfl | rfl | work | rfl | rfl
    · exact .inl (by simp [App.usersLine])
    · exact .inl (by simp [package_label app])
    · exact .inr (.inl work)
    · exact .inl (by simp [vibration_label vibrationTold])
    · exact .inl (by simp [default_label defaultTold])
  · exact .inr (.inr cache)

/-- Only three lines can keep a report from being good. -/
theorem good_lines {report : Report} (lines : report.lines = [app.usersLine, app.packageLine,
      app.workProfileLine profiles, vibration, ringtone] ++ app.cacheLines) :
    report.ok = true ↔ ∀ line ∈ [app.packageLine, vibration, ringtone], line.status ≠ .error := by
  have usersFine : app.usersLine.status ≠ .error := nofun
  have workFine := (work_profile_line app profiles).2
  have cacheFine := cache_lines app
  simp only [Report.ok, lines, List.all_eq_true, bne_iff_ne, List.mem_append, List.mem_cons,
    List.not_mem_nil, or_false]
  grind

theorem report_lines (returned : app.report.result = .ok report) :
    ∃ vibration ringtone, Lines app report vibration ringtone := by
  obtain ⟨profiles, vibration, ringtone, -, vibrationTold, defaultTold, lines⟩ :=
    returned_report returned
  have users : app.usersLine.label = "Users" := rfl
  have package := package_label app
  have work := (work_profile_line app profiles).1
  have vibrationOwn := vibration_label vibrationTold
  have defaultOwn := default_label defaultTold
  refine ⟨vibration, ringtone, ?_, ?_, vibrationTold, ?_, defaultTold, good_lines lines⟩
  · simp [lineOf?, lines, users, package]
  · simp [lineOf?, lines, users, package, work, vibrationOwn]
  · simp [lineOf?, lines, users, package, work, vibrationOwn, defaultOwn]

end CallTone.ReportLines
