import CallTone.Proofs.RegisteredUsers
import CallTone.Proofs.ReportForecast

/-! The warning of the health report about a missing cache: that the locked users will
ring without sound. Without the cache, the systemwide alias plays nothing for a user who
is locked, so a user is silent whose call is answered with that alias. A locked user with
no default of its own is answered with that of the session's user instead, and rings
when that one is unlocked and has a sound that plays. -/
namespace CallTone.CacheWarning
open AppAnswers RegisteredUsers ReportForecast ReportLines SoundPlaces
open Report (Line)

variable {app : App}

/-! Without the cache -/

/-- There is no file that could stand in for the sounds of locked users. -/
def Uncached (app : App) : Prop :=
  ∀ path, app.settings.device.ringtoneCache = some path → app.hasFile path = false

/-- A report that warns about the cache has looked for its file. -/
theorem warned_uncached (returned : app.report.result = .ok report)
    (warned : App.cacheWarning users ∈ report.lines) : Uncached app := by
  obtain ⟨profiles, -, -, cases⟩ := line_cases returned
  have among : App.cacheWarning users ∈ app.cacheLines := by
    rcases cases _ warned with label | work | among
    · exact absurd label (by simp [App.cacheWarning])
    · have label := (work_profile_line app profiles).1
      rw [← work] at label
      exact absurd label (by simp [App.cacheWarning])
    · exact among
  intro path cached
  unfold App.cacheLines at among
  rw [cached] at among
  split at among
  · cases among
  · dsimp only at among
    split at among
    · simp [App.cacheWarning] at among
    · simpa using ‹¬ app.hasFile path = true›

theorem missing_unopened (missing : app.hasFile path = false) (uri : String) :
    (Engine.openFile app.files uri path).isOk = false := by
  unfold App.hasFile at missing
  unfold Engine.openFile
  cases found : app.files.get? path.toString with
  | none => rfl
  | some entry =>
    rw [found] at missing
    cases entry with
    | directory => rfl
    | _ => cases missing

/-- Without a file, the alias plays nothing for a locked user. -/
theorem alias_silent (uncached : Uncached app)
    (locked : app.device.isUnlocked context.userId = false) :
    playsAt? app context SoundKind.ringtone.aliasUri = none := by
  have place : placeOf app.device.locate context SoundKind.ringtone.aliasUri =
      app.settings.device.ringtoneCache := by
    rw [placeOf, (rfl : Engine.target SoundKind.ringtone.aliasUri = .ok none)]
    simp only [Device.locate, SoundKind.ofAlias?_aliasUri, locked, Bool.false_eq_true, ↓reduceIte]
    rfl
  rw [playsAt?, place]
  cases cached : app.settings.device.ringtoneCache with
  | none => rfl
  | some path =>
    have unopened := missing_unopened (uncached path cached) SoundKind.ringtone.aliasUri
    rw [Option.filter_some, unopened]
    rfl

/-! Who rings all the same -/

/-- The selection can be played. -/
def Playable (answer : Option (Selection LoadedRingtone)) : Prop :=
  ∃ selection handle, answer = some selection ∧ selection.handle = some handle

/-- The ringtone of a user is within reach and plays. -/
def Rings (app : App) (user : UserHandle) : Prop :=
  app.device.isUnlocked user.identifier = true ∧
    ∃ uri, app.device.actualDefault ⟨app.packageName, user⟩ .ringtone = some uri ∧
      ∃ path, playsAt? app ⟨app.packageName, user⟩ uri = some path

/-- Without the cache, the default of a user plays exactly when the user's own ringtone
does. -/
theorem default_plays_iff (uncached : Uncached app) (user : UserHandle) :
    (∃ uri, defaultOf app user = some uri ∧
      ∃ path, playsAt? app ⟨app.packageName, user⟩ uri = some path) ↔ Rings app user := by
  unfold defaultOf Rings
  cases unlocked : app.device.isUnlocked user.identifier with
  | true => simp
  | false =>
    have silent : playsAt? app ⟨app.packageName, user⟩ SoundKind.ringtone.aliasUri = none :=
      alias_silent uncached unlocked
    simp [silent]

theorem playable_iff {answer : Option (Selection LoadedRingtone)} (uncached : Uncached app)
    (heardAs : answer.map heard = (defaultOf app who).map fun uri =>
      (uri, playsAt? app ⟨app.packageName, who⟩ uri)) :
    Playable answer ↔ Rings app who := by
  rw [← default_plays_iff uncached]
  constructor
  · rintro ⟨selection, handle, rfl, played⟩
    obtain ⟨uri, set, same⟩ := Option.map_eq_some_iff.mp heardAs.symm
    have plays := congrArg Prod.snd same
    rw [heard, played] at plays
    exact ⟨uri, set, handle.path, plays⟩
  · rintro ⟨uri, set, path, plays⟩
    rw [set, Option.map_some, plays] at heardAs
    obtain ⟨selection, rfl, same⟩ := Option.map_eq_some_iff.mp heardAs
    obtain ⟨handle, played, -⟩ := Option.map_eq_some_iff.mp (congrArg Prod.snd same)
    exact ⟨selection, handle, rfl, played⟩

/-- In a report, the line about the default ringtone passes exactly when the session's user
rings. -/
theorem default_passes_iff (returned : app.report.result = .ok report) :
    HasStatus report "Default ringtone" .passed ↔ Rings app app.device.currentUser := by
  obtain ⟨vibration, ringtone, lines⟩ := report_lines returned
  unfold HasStatus Rings
  rw [lines.defaultThere]
  cases lines.defaultTold with
  | locked locked message => simp [locked]
  | unset unlocked unset message =>
    have nothing : app.device.actualDefault ⟨app.packageName, app.device.currentUser⟩ .ringtone =
        none := unset
    simp [nothing]
  | @tried uri _ unlocked set told =>
    have own : app.device.actualDefault ⟨app.packageName, app.device.currentUser⟩ .ringtone =
        some uri := set
    have base : playsAt? app ⟨app.packageName, app.device.currentUser⟩ uri =
        playsAt? app app.device.baseContext uri := rfl
    simp only [unlocked, own, Option.some.injEq, exists_eq_left', base, true_and]
    generalize playsAt? app app.device.baseContext uri = place at told
    cases told with
    | plays path => simp
    | silent message => simp

/-- Registered users that the report lists as locked are locked. -/
theorem listed_locked (registered : Registered app) {user : Int}
    (listed : user ∈ app.lockedUsers) : app.device.isUnlocked user = false := by
  obtain ⟨configured, among, rfl⟩ := List.mem_map.mp listed
  obtain ⟨member, locked⟩ := List.mem_filter.mp among
  unfold Device.isUnlocked
  rw [registered_user registered, configured_member registered member]
  simpa using locked

/-- A locked user rings exactly as one without a default of its own: with the session's
sound. -/
theorem locked_rings_iff (locked : app.device.isUnlocked user.identifier = false)
    (answered : AnsweredBy app user who) :
    Rings app who ↔ ¬ HasOwn app user ∧ Rings app app.device.currentUser := by
  cases answered with
  | own has =>
    have silent : ¬ Rings app user := fun rings => by
      rw [rings.1] at locked
      cases locked
    exact iff_of_false silent fun both => both.1 has
  | session without => exact (and_iff_right without).symm

/-- When a report warns that the cache is missing, a call for a user is answered with the
default of that user or of the session's, and can be played exactly when that one's own
ringtone is within reach and plays. So a locked user whom the warning lists stays silent
exactly when the user has a default of its own, or the report's own line about the
default ringtone does not pass. -/
theorem listed_user_rings_iff (returned : app.report.result = .ok report)
    (warned : App.cacheWarning app.lockedUsers ∈ report.lines)
    (off : app.guard.enabled = false ∨ app.guard.isDispatch thread = false)
    (calls : CallFor call user) (shaper : Option VolumeShaper) (muted : Bool) :
    ∃ who answer, AnsweredBy app user who ∧
      (app.hold (app.resolver.getRingtone thread call shaper muted)).result = .ok answer ∧
      (Playable answer ↔ Rings app who) ∧
      (Registered app → user.identifier ∈ app.lockedUsers →
        (Playable answer ↔
          ¬ HasOwn app user ∧ HasStatus report "Default ringtone" .passed)) := by
  obtain ⟨who, answer, answered, result, same⟩ :=
    user_answer (CallSelection.check_passes off _) calls shaper muted
  have rings := playable_iff (warned_uncached returned warned) same
  refine ⟨who, answer, answered, result, rings, fun registered listed => ?_⟩
  rw [rings, default_passes_iff returned]
  exact locked_rings_iff (listed_locked registered listed) answered

/-- A session's user with a sound, and two locked users, one with a sound of its own. -/
def lockedApp : App :=
  App.wire { device := { users :=
    [⟨0, true, false, true, none, none, [("ringtone", "file:///ring.ogg")]⟩,
      ⟨10, false, false, true, none, none, []⟩,
      ⟨20, false, false, true, none, none, [("ringtone", "file:///own.ogg")]⟩] } } none
    [("/ring.ogg", .noInfo), ("/own.ogg", .noInfo)]

/-- Its report. -/
def lockedReport : Report :=
  ⟨[⟨"Users", .passed, some "3 configured, current 0"⟩,
    ⟨"Package", .passed, some "org.ringtone.resolver"⟩,
    ⟨"Work profile", .passed, some "none"⟩,
    ⟨"Vibration sound", .warning, some "vibration_sound_path not configured"⟩,
    ⟨"Default ringtone", .passed, some "/ring.ogg"⟩,
    ⟨"Ringtone cache", .warning, some "missing; locked user(s) [10, 20] will ring without sound"⟩]⟩

/-- Of the two users that are listed, the one without a sound of its own rings. -/
theorem soundless_user_rings :
    lockedApp.report.result = .ok lockedReport ∧
    App.cacheWarning lockedApp.lockedUsers ∈ lockedReport.lines ∧
    10 ∈ lockedApp.lockedUsers ∧ 20 ∈ lockedApp.lockedUsers ∧
    CallFor ⟨none, none, some ⟨10⟩⟩ ⟨10⟩ ∧
    (∃ answer, (lockedApp.hold (lockedApp.resolver.getRingtone App.worker
      ⟨none, none, some ⟨10⟩⟩ none false)).result = .ok answer ∧ Playable answer) ∧
    ∃ answer, (lockedApp.hold (lockedApp.resolver.getRingtone App.worker
      ⟨none, none, some ⟨20⟩⟩ none false)).result = .ok answer ∧ ¬ Playable answer := by
  have returned : lockedApp.report.result = .ok lockedReport := by decide
  have warned : App.cacheWarning lockedApp.lockedUsers ∈ lockedReport.lines := by decide
  have off : lockedApp.guard.enabled = false ∨ lockedApp.guard.isDispatch App.worker = false :=
    .inr rfl
  have registered : Registered lockedApp := ⟨rfl, by decide⟩
  have calls (user : Int) : CallFor ⟨none, none, some ⟨user⟩⟩ ⟨user⟩ := ⟨rfl, rfl, nofun⟩
  have passes : HasStatus lockedReport "Default ringtone" .passed := ⟨some "/ring.ogg", by decide⟩
  obtain ⟨-, first, -, firstResult, -, firstRings⟩ :=
    listed_user_rings_iff returned warned off (calls 10) none false
  obtain ⟨-, second, -, secondResult, -, secondRings⟩ :=
    listed_user_rings_iff returned warned off (calls 20) none false
  have without : ¬ HasOwn lockedApp ⟨10⟩ := fun own => own.2 (by decide)
  have own : HasOwn lockedApp ⟨20⟩ := ⟨⟨_, rfl, by decide⟩, by decide⟩
  refine ⟨returned, warned, by decide, by decide, calls 10, ⟨first, firstResult, ?_⟩,
    second, secondResult, ?_⟩
  · exact (firstRings registered (by decide)).mpr ⟨without, passes⟩
  · exact fun playable => ((secondRings registered (by decide)).mp playable).1 own

/-- A locked user without a sound beside a session's user with one, as they are written. -/
def soundlessSettings : Value :=
  .map [(.str "device", .map [(.str "users", .list
    [.map [(.str "id", .int 0), (.str "sounds", .map [(.str "ringtone", .str "file:///ring.ogg")])],
      .map [(.str "id", .int 10), (.str "unlocked", .bool false)]])])]

/-- The warning is not true of every user that it lists. -/
theorem listed_user_rings :
    ¬ ∀ (home : String) (raw : Value) (settings : Settings) (files : Files) (report : Report)
        (user : Int) (call : IncomingCall) (answer : Option (Selection LoadedRingtone)),
      let app := App.wire settings none files
      Settings.read home raw = .valid settings → app.report.result = .ok report →
      App.cacheWarning app.lockedUsers ∈ report.lines → user ∈ app.lockedUsers →
      CallFor call ⟨user⟩ →
      (app.hold (app.resolver.getRingtone App.worker call none false)).result = .ok answer →
      ¬ Playable answer := by
  intro always
  let settings : Settings := { device := { users :=
    [⟨0, true, false, true, none, none, [("ringtone", "file:///ring.ogg")]⟩,
      ⟨10, false, false, true, none, none, []⟩] } }
  have valid : Settings.read "/home/tester" soundlessSettings = .valid settings := by
    with_unfolding_all rfl
  let report : Report :=
    ⟨[⟨"Users", .passed, some "2 configured, current 0"⟩,
      ⟨"Package", .passed, some "org.ringtone.resolver"⟩,
      ⟨"Work profile", .passed, some "none"⟩,
      ⟨"Vibration sound", .warning, some "vibration_sound_path not configured"⟩,
      ⟨"Default ringtone", .passed, some "/ring.ogg"⟩, App.cacheWarning [10]]⟩
  let app := App.wire settings none [("/ring.ogg", .noInfo)]
  have returned : app.report.result = .ok report := by decide
  have warned : App.cacheWarning app.lockedUsers ∈ report.lines := by decide
  have calls : CallFor ⟨none, none, some ⟨10⟩⟩ ⟨10⟩ := ⟨rfl, rfl, nofun⟩
  have passed : app.guard.check "get_ringtone" App.worker = .ok () := rfl
  obtain ⟨who, answer, answered, result, same⟩ := user_answer passed calls none false
  have rings : Rings app who := by
    refine (locked_rings_iff rfl answered).mpr ⟨fun own => own.2 (by decide), ?_⟩
    exact (default_passes_iff returned).mp ⟨some "/ring.ogg", by decide⟩
  have playable := (playable_iff (warned_uncached returned warned) same).mpr rings
  exact always _ _ settings _ report 10 _ answer valid returned warned (by decide) calls result
    playable

end CallTone.CacheWarning
