import CallTone.Command.Run
import CallTone.Proofs.CallSelection
import CallTone.Proofs.ReportLines
import CallTone.Proofs.VibrationSound

/-! The health report as a forecast. The report tries sounds in the context of the
device; a call of the session's user is answered in a context of the resolver's
package where there is one. Both are contexts of one user, so the report foretells
the default that such a call plays, and the vibration sound of a silent ring, from
the same files. -/
namespace CallTone.ReportForecast
open AppAnswers CallSelection ReportLines VibrationSound
open Report (Line)

variable {app : App}

/-! A call for a user -/

/-- A plain call in the name of a user, which only a default can answer: by no work contact
and with no ringtone of the caller. -/
structure CallFor (call : IncomingCall) (user : UserHandle) : Prop where
  notWork : call.isWorkContact = false
  associated : call.associatedUser = some user
  bare : ∀ uri, call.ringtone = some uri → uri = ""

/-- A user has a default of its own: the resolver's package is there, and a ringtone is
set. -/
def HasOwn (app : App) (user : UserHandle) : Prop :=
  HasPackage app user ∧ app.device.stringFor SoundKind.ringtone.settingKey user.identifier ≠ ""

/-- Whose default answers a call for a user: the user's when it has one of its own, else
that of the session's user. -/
inductive AnsweredBy (app : App) (user : UserHandle) : UserHandle → Prop where
  | own (has : HasOwn app user) : AnsweredBy app user user
  | session (without : ¬ HasOwn app user) : AnsweredBy app user app.device.currentUser

/-- What is played by default for a user: its own sound while it is unlocked, else the
systemwide alias. -/
def defaultOf (app : App) (user : UserHandle) : Option String :=
  if app.device.isUnlocked user.identifier then
    app.device.actualDefault ⟨app.packageName, user⟩ .ringtone
  else some SoundKind.ringtone.aliasUri

/-- A selection as far as it is heard: the reference, and where it plays from. -/
def heard (selection : Selection LoadedRingtone) : String × Option Path :=
  (selection.uri, selection.handle.map LoadedRingtone.path)

/-- Without a ringtone of the caller, nothing of the caller's is selected. -/
theorem no_caller_selection (app : App) (context : Option Context) {ringtone : Option String}
    (bare : ∀ uri, ringtone = some uri → uri = "") (shaper : Option VolumeShaper)
    (attributes : AudioAttributes) :
    app.hold (Resolver.callerSelection context ringtone shaper attributes) = ⟨.ok none, []⟩ := by
  unfold Resolver.callerSelection
  split
  next own uri =>
    rw [dif_neg (not_not_intro (bare uri rfl))]
    rfl
  · rfl

/-- The default of a context with a sound of its own is played in it, any other in the
base context. -/
theorem default_context_result (app : App) (own : Context) :
    (app.hold (Resolver.defaultContext (some own))).result =
      .ok (if app.device.stringFor SoundKind.ringtone.settingKey own.userId ≠ "" then own
        else app.device.baseContext) := by
  have asked : (app.hold (Resolver.hasOwnDefault (some own))).result =
      .ok (app.device.stringFor SoundKind.ringtone.settingKey own.userId ≠ "") := by
    unfold Resolver.hasOwnDefault
    rw [result_bind app (attempt_result app _)]
    rfl
  have base := base_context_result app
  unfold Resolver.defaultContext
  rw [result_bind app asked]
  by_cases set : app.device.stringFor SoundKind.ringtone.settingKey own.userId = ""
  · simpa [set] using base
  · simp [set]

/-- The default that answers a call for a user is that of one user, whether the call has
a context of its own or not. -/
theorem default_of_user (app : App) (user : UserHandle) :
    ∃ context chosen,
      (app.hold (app.resolver.contextForUser (some user))).result = .ok context ∧
      (app.hold (Resolver.defaultContext context)).result = .ok chosen ∧
      AnsweredBy app user chosen.user := by
  rcases context_for_user_cases app user with ⟨has, found⟩ | ⟨lacks, missing⟩
  · have chosen := default_context_result app ⟨app.settings.resolver.packageName, user⟩
    refine ⟨_, _, found, chosen, ?_⟩
    split_ifs with set
    · exact .own ⟨has, set⟩
    · exact .session fun own => set own.2
  · exact ⟨none, app.device.baseContext, missing, base_context_result app,
      .session fun own => lacks own.1⟩

/-- The default reference of a context is that of its user. -/
theorem default_uri_result (app : App) (context : Context) :
    (app.hold (Resolver.defaultUri context)).result = .ok (defaultOf app context.user) := by
  have same : app.device.actualDefault context .ringtone =
      app.device.actualDefault ⟨app.packageName, context.user⟩ .ringtone := rfl
  unfold Resolver.defaultUri defaultOf
  rw [result_bind app (attempt_result app _), App.reply]
  dsimp only [Context.userId]
  cases app.device.isUnlocked context.user.identifier with
  | false => rfl
  | true =>
    have stored : (app.hold (Resolver.storedDefault context true)).result =
        .ok (.ok (app.device.actualDefault ⟨app.packageName, context.user⟩ .ringtone)) := by
      rw [← same]
      exact attempt_result app _
    rw [result_bind app stored, if_pos rfl]
    cases app.device.actualDefault ⟨app.packageName, context.user⟩ .ringtone <;> rfl

theorem default_given (set : defaultOf app user = some uri) : uri ≠ "" := by
  unfold defaultOf Device.actualDefault at set
  split at set
  · dsimp only at set
    split at set
    next => cases set
    next given =>
      cases set
      exact given
  · cases set
    decide

/-- Past the guard, a call for a user is answered with a default of the user or of the
session's, from where it plays for that user. -/
theorem user_answer (passed : app.guard.check "get_ringtone" thread = .ok ())
    (calls : CallFor call user) (shaper : Option VolumeShaper) (muted : Bool) :
    ∃ who answer, AnsweredBy app user who ∧
      (app.hold (app.resolver.getRingtone thread call shaper muted)).result = .ok answer ∧
      answer.map heard = (defaultOf app who).map fun uri =>
        (uri, playsAt? app ⟨app.packageName, who⟩ uri) := by
  obtain ⟨context, chosen, found, defaulting, answered⟩ := default_of_user app user
  have resolved : (app.hold (app.resolver.callContext call)).result = .ok context := by
    unfold Resolver.callContext
    rw [calls.notWork, calls.associated]
    exact found
  have calling : (app.hold (Resolver.callerSelection context call.ringtone shaper
      (AudioAttributes.ringtone muted))).result = .ok none :=
    congrArg App.Answer.result (no_caller_selection app context calls.bare shaper _)
  refine ⟨chosen.user, ?_⟩
  unfold Resolver.getRingtone
  rw [hold_checked app passed, result_bind app resolved, result_bind app calling]
  unfold Resolver.defaultSelection
  dsimp only
  rw [result_bind app defaulting, result_bind app (default_uri_result app chosen)]
  cases set : defaultOf app chosen.user with
  | none => exact ⟨none, answered, rfl, rfl⟩
  | some uri =>
    have built := build_result app chosen uri shaper (AudioAttributes.ringtone muted)
    have given : uri ≠ "" := default_given set
    simp only [dif_pos given]
    rw [result_bind app built]
    refine ⟨_, answered, rfl, ?_⟩
    have sameUser : chosen.userId = Context.userId ⟨app.packageName, chosen.user⟩ := rfl
    rw [Option.map_some, Option.map_some, heard, loaded_path, plays_for_user app uri sameUser]

/-! A call of the session's user -/

/-- While the session's user is unlocked, its default is the one that the device gives. -/
theorem session_default (unlocked : app.device.isUnlocked app.device.currentUser.identifier = true) :
    defaultOf app app.device.currentUser =
      app.device.actualDefault app.device.baseContext .ringtone :=
  if_pos unlocked

/-- Past the guard, a plain call of the session's user is answered with its default, from
where the report looks for it. -/
theorem plain_answer (passed : app.guard.check "get_ringtone" thread = .ok ())
    (plain : CallFor call app.device.currentUser) (shaper : Option VolumeShaper) (muted : Bool) :
    ∃ answer, (app.hold (app.resolver.getRingtone thread call shaper muted)).result = .ok answer ∧
      answer.map heard = (defaultOf app app.device.currentUser).map fun uri =>
        (uri, playsAt? app app.device.baseContext uri) := by
  obtain ⟨who, answer, answered, result, same⟩ := user_answer passed plain shaper muted
  have session : who = app.device.currentUser := by cases answered <;> rfl
  subst session
  exact ⟨answer, result, same⟩

/-! A silent ring -/

/-- Past the guard, a silent ring has a handle for the configured path, from where the
report looks for it. -/
theorem silent_answer {path : String}
    (configured : app.settings.resolver.vibrationSoundPath = path)
    (passed : app.guard.check "get_haptic_only_ringtone" thread = .ok ()) :
    ∃ silent, (app.getHapticOnly thread).result = .ok silent ∧
      silent.handle.map LoadedRingtone.path =
        playsAt? app app.device.baseContext (Uri.ofFile path) := by
  obtain ⟨silent, result, -, handle⟩ := haptic_only_handle configured passed
  refine ⟨silent, result, ?_⟩
  rw [handle, Option.map_map]
  exact loaded_path app app.device.baseContext _ none (AudioAttributes.ringtone false)

/-- The reference that would be written for no path plays from nowhere. -/
theorem no_path_plays_nowhere (app : App) (context : Context) :
    playsAt? app context (Uri.ofFile "") = none := by
  have nowhere : Engine.target (Uri.ofFile "") =
      .error ⟨.soundLoad, "file://: empty file path"⟩ := by decide
  rw [playsAt?, SoundPlaces.placeOf, nowhere]
  rfl

/-! What the report foretells -/

/-- The line under a label passes with the text of a path. -/
def PassesWith (report : Report) (label path : String) : Prop :=
  lineOf? report label = some ⟨label, .passed, some path⟩

/-- The line under a label has a status. -/
def HasStatus (report : Report) (label : String) (status : Report.Status) : Prop :=
  ∃ detail, lineOf? report label = some ⟨label, status, detail⟩

/-- The report tells what a call of the session's user is answered with. -/
structure ForetellsDefault (app : App) (report : Report)
    (answer : Option (Selection LoadedRingtone)) : Prop where
  plays : app.device.isUnlocked app.device.currentUser.identifier = true → ∀ path,
    (PassesWith report "Default ringtone" path ↔ ∃ selection handle, answer = some selection ∧
      selection.handle = some handle ∧ handle.path.toString = path)
  fails : app.device.isUnlocked app.device.currentUser.identifier = true →
    (HasStatus report "Default ringtone" .error ↔
      ∃ selection, answer = some selection ∧ selection.handle = none)
  unset : app.device.isUnlocked app.device.currentUser.identifier = true →
    (HasStatus report "Default ringtone" .warning ↔ answer = none)
  locked : app.device.isUnlocked app.device.currentUser.identifier = false →
    HasStatus report "Default ringtone" .warning ∧
      ∃ selection, answer = some selection ∧ selection.uri = SoundKind.ringtone.aliasUri

/-- The report tells what a silent ring is answered with. -/
structure ForetellsVibration (app : App) (report : Report) (silent : Selection LoadedRingtone) :
    Prop where
  plays : app.settings.resolver.vibrationSoundPath ≠ "" → ∀ path,
    (PassesWith report "Vibration sound" path ↔
      ∃ handle, silent.handle = some handle ∧ handle.path.toString = path)
  fails : app.settings.resolver.vibrationSoundPath ≠ "" →
    (HasStatus report "Vibration sound" .error ↔ silent.handle = none)
  unset : app.settings.resolver.vibrationSoundPath = "" →
    HasStatus report "Vibration sound" .warning ∧ silent.handle = none

/-- A line that tells where a sound plays from tells what a handle from there is. -/
theorem told_handle {handle : Option LoadedRingtone}
    (there : lineOf? report label = some line)
    (told : Told label (handle.map LoadedRingtone.path) line) :
    (∀ path, PassesWith report label path ↔
      ∃ played, handle = some played ∧ played.path.toString = path) ∧
    (HasStatus report label .error ↔ handle = none) ∧ ¬ HasStatus report label .warning := by
  unfold PassesWith HasStatus
  rw [there]
  cases handle with
  | none =>
    cases told with
    | silent message => simp
  | some played =>
    cases told with
    | plays path => simp

theorem default_foretold (lines : Lines app report vibration ringtone)
    (answered : answer.map heard = (defaultOf app app.device.currentUser).map fun uri =>
      (uri, playsAt? app app.device.baseContext uri)) : ForetellsDefault app report answer := by
  have there := lines.defaultThere
  cases lines.defaultTold with
  | locked locked message =>
    have standsIn : defaultOf app app.device.currentUser = some SoundKind.ringtone.aliasUri := by
      simp [defaultOf, locked]
    rw [standsIn] at answered
    obtain ⟨selection, rfl, same⟩ := Option.map_eq_some_iff.mp answered
    have warned : HasStatus report "Default ringtone" .warning := ⟨some message, there⟩
    have uri : selection.uri = SoundKind.ringtone.aliasUri := (Prod.mk.inj same).1
    exact ⟨by simp [locked], by simp [locked], by simp [locked],
      fun _ => ⟨warned, selection, rfl, uri⟩⟩
  | unset unlocked unset message =>
    have nothing : defaultOf app app.device.currentUser = none := (session_default unlocked).trans unset
    rw [nothing, Option.map_none, Option.map_eq_none_iff] at answered
    subst answered
    have warned : HasStatus report "Default ringtone" .warning := ⟨some message, there⟩
    refine ⟨fun _ path => ?_, fun _ => ?_, fun _ => ?_, by simp [unlocked]⟩
    · simp [PassesWith, there]
    · simp [HasStatus, there]
    · exact iff_of_true warned rfl
  | @tried uri _ unlocked set told =>
    have own : defaultOf app app.device.currentUser = some uri := (session_default unlocked).trans set
    rw [own] at answered
    obtain ⟨selection, rfl, same⟩ := Option.map_eq_some_iff.mp answered
    rw [← (Prod.mk.inj same).2] at told
    obtain ⟨plays, silent, unwarned⟩ := told_handle there told
    refine ⟨fun _ path => ?_, fun _ => ?_, fun _ => ?_, by simp [unlocked]⟩
    · simpa using plays path
    · simpa using silent
    · exact iff_of_false unwarned nofun

theorem vibration_foretold (lines : Lines app report vibration ringtone)
    {silent : Selection LoadedRingtone} {path : String}
    (configured : app.settings.resolver.vibrationSoundPath = path)
    (answered : silent.handle.map LoadedRingtone.path =
      playsAt? app app.device.baseContext (Uri.ofFile path)) :
    ForetellsVibration app report silent := by
  have there := lines.vibrationThere
  cases lines.vibrationTold with
  | unset empty message =>
    obtain rfl : path = "" := Text.ofString_inj.mp (configured.symm.trans empty)
    rw [no_path_plays_nowhere, Option.map_eq_none_iff] at answered
    exact ⟨by simp [empty], by simp [empty], fun _ => ⟨⟨some message, there⟩, answered⟩⟩
  | @tried other _ same given told =>
    obtain rfl : path = other := Text.ofString_inj.mp (configured.symm.trans same)
    rw [← answered] at told
    obtain ⟨plays, broken, -⟩ := told_handle there told
    refine ⟨fun _ => plays, fun _ => broken, fun empty => ?_⟩
    exact absurd (Text.ofString_inj.mp (configured.symm.trans empty)) given

/-- A report is good exactly when none of three checks names an error. -/
theorem good_report (lines : Lines app report vibration ringtone) :
    report.ok = true ↔ ∀ label ∈ ["Package", "Vibration sound", "Default ringtone"],
      ¬ HasStatus report label .error := by
  have status {label : String} {line : Line} (there : lineOf? report label = some line)
      (own : line.label = label) : line.status ≠ .error ↔ ¬ HasStatus report label .error := by
    subst own
    simp only [HasStatus, there]
    constructor
    · rintro fine ⟨detail, same⟩
      exact fine (congrArg Line.status (Option.some.inj same))
    · intro fine failed
      exact fine ⟨line.detail, congrArg some (by rw [← failed])⟩
  rw [lines.ok]
  simp only [List.forall_mem_cons, List.not_mem_nil, false_implies, implies_true, and_true,
    status lines.packageThere (package_label app),
    status lines.vibrationThere (vibration_label lines.vibrationTold),
    status lines.defaultThere (default_label lines.defaultTold)]

/-- Whenever there is a report, it tells what calls off the guarded thread will do. Its
line about the default ringtone agrees with the answer to a plain call of the session's
user, with any volume curve and haptic flag and whether or not the resolver's package
is there; its line about the vibration sound agrees with the answer to a silent ring;
and it is good, and the command ends with code 0, exactly when none of three checks
names an error. -/
theorem report_foretells (returned : app.report.result = .ok report)
    (off : app.guard.enabled = false ∨ app.guard.isDispatch thread = false)
    (plain : CallFor call app.device.currentUser) (shaper : Option VolumeShaper) (muted : Bool)
    (options : Command.Options) :
    (∃ answer, (app.hold (app.resolver.getRingtone thread call shaper muted)).result = .ok answer ∧
      ForetellsDefault app report answer) ∧
    (∃ silent, (app.getHapticOnly thread).result = .ok silent ∧
      ForetellsVibration app report silent) ∧
    (report.ok = true ↔ ∀ label ∈ ["Package", "Vibration sound", "Default ringtone"],
      ¬ HasStatus report label .error) ∧
    ((Command.perform app .doctor options).exit = .code 0 ↔ report.ok = true) := by
  obtain ⟨vibration, ringtone, lines⟩ := report_lines returned
  obtain ⟨answer, answered, same⟩ := plain_answer (check_passes off _) plain shaper muted
  obtain ⟨path, configured⟩ := told_path lines.vibrationTold
  obtain ⟨silent, rung, opened⟩ := silent_answer configured (check_passes off _)
  refine ⟨⟨answer, answered, default_foretold lines same⟩,
    ⟨silent, rung, vibration_foretold lines configured opened⟩, good_report lines, ?_⟩
  have spoken : (Command.perform app .doctor options).exit =
      .code (if report.ok then 0 else 1) := by
    simp only [Command.perform, Command.speakReport, returned]
  rw [spoken]
  cases report.ok <;> simp

/-- The session's user has a sound, but not the resolver's package. -/
def packagelessApp : App :=
  App.wire { device := { users :=
    [⟨0, true, false, true, none, some [], [("ringtone", "file:///ring.ogg")]⟩] } } none
    [("/ring.ogg", .noInfo)]

/-- Its report. -/
def packagelessReport : Report :=
  ⟨[⟨"Users", .passed, some "1 configured, current 0"⟩,
    ⟨"Package", .error, some "org.ringtone.resolver not installed for user 0"⟩,
    ⟨"Work profile", .passed, some "none"⟩,
    ⟨"Vibration sound", .warning, some "vibration_sound_path not configured"⟩,
    ⟨"Default ringtone", .passed, some "/ring.ogg"⟩]⟩

theorem packageless_report_foretells :
    packagelessApp.report.result = .ok packagelessReport ∧
    packagelessApp.guard.isDispatch App.worker = false ∧
    CallFor ⟨none, none, some ⟨0⟩⟩ packagelessApp.device.currentUser ∧
    (∃ selection handle, (packagelessApp.hold (packagelessApp.resolver.getRingtone App.worker
        ⟨none, none, some ⟨0⟩⟩ none false)).result = .ok (some selection) ∧
      selection.handle = some handle ∧ handle.path.toString = "/ring.ogg") ∧
    (∃ silent, (packagelessApp.getHapticOnly App.worker).result = .ok silent ∧
      silent.handle = none) ∧
    packagelessReport.ok = false := by
  have returned : packagelessApp.report.result = .ok packagelessReport := by decide
  have plain : CallFor ⟨none, none, some ⟨0⟩⟩ packagelessApp.device.currentUser := ⟨rfl, rfl, nofun⟩
  obtain ⟨⟨answer, answered, default⟩, ⟨silent, rung, vibration⟩, -⟩ :=
    report_foretells returned (.inr rfl : _ ∨ packagelessApp.guard.isDispatch App.worker = false)
      plain none false {}
  obtain ⟨selection, handle, rfl, played, path⟩ := (default.plays rfl "/ring.ogg").mp rfl
  exact ⟨returned, rfl, plain, ⟨selection, handle, answered, played, path⟩,
    ⟨silent, rung, (vibration.unset rfl).2⟩, by decide⟩

end CallTone.ReportForecast
