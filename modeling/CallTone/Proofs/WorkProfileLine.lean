import CallTone.Proofs.AppAnswers
import CallTone.Proofs.ProfileTally
import CallTone.Proofs.ReportLines
import Std.Data.String.ToInt

/-! The line of the health report about the work profile, beside the context in which
work calls are answered. Both go by the same profiles: the line names a user where the
resolver asks for a context, and names none where it asks for nothing. The context is
there only when that user has the resolver's package, which the line does not look at;
so the two agree exactly for the users who have it. -/
namespace CallTone.WorkProfileLine
open AppAnswers ProfileTally ReportLines
open Report (Line)

variable {app : App}

/-! What is printed -/

/-- The text that names a user as the work profile. -/
def named (user : Int) : String := "Work profile: OK (" ++ ("user " ++ (toString user ++ ")"))

/-- The text that names nobody. -/
def unnamed : String := "Work profile: OK (none)"

/-- The text about several profiles that could be the work profile. -/
def several (count : Nat) : String :=
  "Work profile: WARNING (" ++
    (toString count ++ " managed profiles; work contacts use the default ringtone)")

theorem named_injective (same : named first = named second) : first = second := by
  have shown : toString first = toString second :=
    (String.append_left_inj _).mp <| (String.append_right_inj _).mp <|
      (String.append_right_inj _).mp same
  exact Int.repr_inj.mp shown

theorem named_ne_unnamed (user : Int) : named user ≠ unnamed := by
  intro same
  have rest : "user " ++ (toString user ++ ")") = "none)" :=
    (String.append_right_inj "Work profile: OK (").mp same
  have heads := head_append (toString user ++ ")") (rfl : "user ".toList.head? = some 'u')
  rw [rest] at heads
  exact absurd heads (by decide)

theorem named_ne_several (user : Int) (count : Nat) : named user ≠ several count := by
  intro same
  have rest : "OK (" ++ ("user " ++ (toString user ++ ")")) = "WARNING (" ++
      (toString count ++ " managed profiles; work contacts use the default ringtone)") :=
    (String.append_right_inj "Work profile: ").mp same
  have heads := head_append ("user " ++ (toString user ++ ")"))
    (rfl : "OK (".toList.head? = some 'O')
  rw [rest, head_append _ (rfl : "WARNING (".toList.head? = some 'W')] at heads
  exact absurd heads (by decide)

theorem named_text (user : Int) :
    Line.text ⟨"Work profile", .passed, some ("user " ++ toString user)⟩ = named user := by
  rw [text_detail _ _ (by simp)]
  change "Work profile: OK (" ++ ("user " ++ toString user) ++ ")" = _
  rw [String.append_assoc, String.append_assoc]
  rfl

theorem several_text (count : Nat) :
    Line.text ⟨"Work profile", .warning, some (toString count ++
      " managed profiles; work contacts use the default ringtone")⟩ = several count := by
  rw [text_detail _ _ (by simp)]
  change "Work profile: WARNING (" ++ (toString count ++
    " managed profiles; work contacts use the default ringtone") ++ ")" = _
  rw [String.append_assoc, String.append_assoc]
  rfl

theorem named_head (user : Int) : (named user).toList.head? = some 'W' :=
  head_append _ rfl

theorem several_head (count : Nat) : (several count).toList.head? = some 'W' :=
  head_append _ rfl

/-- The report prints a text as one of its lines. -/
def Prints (app : App) (text : String) : Prop :=
  ∃ report, app.report.result = .ok report ∧ text ∈ report.lines.map Line.text

/-- There is a report. -/
def Reports (app : App) : Prop := ∃ report, app.report.result = .ok report

/-- Of the texts that start like the line about the work profile, a report prints that
line alone. -/
theorem prints_iff
    (listed : app.device.enabledProfiles app.device.currentUser.identifier = .ok profiles)
    (starts : text.toList.head? = some 'W') :
    Prints app text ↔ Reports app ∧ text = (app.workProfileLine profiles).text := by
  constructor
  · rintro ⟨report, returned, printed⟩
    obtain ⟨line, among, rfl⟩ := List.mem_map.mp printed
    obtain ⟨others, relisted, -, cases⟩ := line_cases returned
    rw [listed] at relisted
    cases relisted
    have head (labelled : line.label ≠ "") : line.label.toList.head? = some 'W' :=
      (text_head line labelled).symm.trans starts
    -- The other labels start with other letters, so the text is none of their lines'.
    rcases cases line among with other | rfl | cache
    · have otherwise : ∀ name ∈ ["Users", "Package", "Vibration sound", "Default ringtone"],
          name ≠ "" ∧ name.toList.head? ≠ some 'W' := by decide
      obtain ⟨labelled, begins⟩ := otherwise _ other
      exact absurd (head labelled) begins
    · exact ⟨⟨report, returned⟩, rfl⟩
    · rw [cache_label app line cache] at head
      exact absurd (head (by decide)) (by decide)
  · rintro ⟨⟨report, returned⟩, rfl⟩
    obtain ⟨others, relisted, there, -⟩ := line_cases returned
    rw [listed] at relisted
    cases relisted
    exact ⟨report, returned, List.mem_map_of_mem there⟩

/-! The line and the context -/

/-- What the line about the work profile has to do with the context of the work
profile: a user is named exactly where a context is asked for. -/
inductive NamesFor (app : App) : String → Option Context → Prop where
  | nobody : NamesFor app unnamed none
  | there (user : UserHandle) (has : HasPackage app user) :
      NamesFor app (named user.identifier) (some ⟨app.settings.resolver.packageName, user⟩)
  | lacking (user : UserHandle) (lacks : ¬ HasPackage app user) :
      NamesFor app (named user.identifier) none
  | several (count : Nat) (more : 1 < count) : NamesFor app (several count) none

/-- The work profile is settled by the profiles that the device lists. -/
theorem work_result (app : App) (user : UserHandle) :
    let listing := app.device.enabledProfiles user.identifier
    (app.workProfileContext user).result =
      (app.hold (settle app.resolver user listing)).result := by
  have asked := attempt_result app (.enabledProfiles user.identifier)
  unfold App.workProfileContext
  rw [work_profile_context_eq, result_bind app asked]
  rfl

theorem line_names
    (listed : app.device.enabledProfiles app.device.currentUser.identifier = .ok profiles) :
    ∃ context, (app.workProfileContext app.device.currentUser).result = .ok context ∧
      NamesFor app (app.workProfileLine profiles).text context := by
  rw [work_result, listed, settle]
  unfold App.workProfileLine
  rcases Resolver.managedOthers app.device.currentUser profiles with _ | ⟨one, _ | ⟨two, rest⟩⟩
  · exact ⟨none, rfl, .nobody⟩
  · dsimp only
    rw [named_text]
    rcases context_for_user_cases app one.user with ⟨has, found⟩ | ⟨lacks, missing⟩
    · exact ⟨_, found, .there one.user has⟩
    · exact ⟨none, missing, .lacking one.user lacks⟩
  · dsimp only
    rw [several_text]
    exact ⟨none, rfl, .several _ (by simp)⟩

theorem work_settled (app : App) :
    ∃ context, (app.workProfileContext app.device.currentUser).result = .ok context := by
  cases listed : app.device.enabledProfiles app.device.currentUser.identifier with
  | error failure =>
    rw [work_result, listed]
    exact ⟨none, rfl⟩
  | ok profiles =>
    obtain ⟨context, result, -⟩ := line_names listed
    exact ⟨context, result⟩

/-! Where the two agree -/

/-- The report names users as the resolver does: one is named exactly when its context is
that of the work profile, and nobody exactly when there is none. -/
structure Agrees (app : App) : Prop where
  names_iff : ∀ user, Prints app (named user) ↔
    ∃ context, (app.workProfileContext app.device.currentUser).result = .ok (some context) ∧
      context.userId = user
  silent_iff : (Prints app unnamed ∨ ∃ count, Prints app (several count)) ↔
    (app.workProfileContext app.device.currentUser).result = .ok none

theorem prints_reports (printed : Prints app text) : Reports app := by
  obtain ⟨report, returned, -⟩ := printed
  exact ⟨report, returned⟩

/-- Without a report nothing is printed, though the work profile is settled all the same. -/
theorem unreported_disagrees (unreported : ¬ Reports app) : ¬ Agrees app := by
  intro agrees
  obtain ⟨context, result⟩ := work_settled app
  cases context with
  | none =>
    rcases agrees.silent_iff.mpr result with printed | ⟨count, printed⟩
    · exact unreported (prints_reports printed)
    · exact unreported (prints_reports printed)
  | some context =>
    have printed : Prints app (named context.userId) :=
      (agrees.names_iff _).mpr ⟨context, result, rfl⟩
    exact unreported (prints_reports printed)

/-- When the user that is named has the package, a user is named exactly when the context
is that user's. -/
theorem named_iff (told : NamesFor app text context)
    (has : ∀ user : UserHandle, text = named user.identifier → HasPackage app user) (user : Int) :
    named user = text ↔ ∃ own, context = some own ∧ own.userId = user := by
  cases told with
  | nobody => exact iff_of_false (named_ne_unnamed user) nofun
  | several count more => exact iff_of_false (named_ne_several user count) nofun
  | lacking other lacks => exact absurd (has other rfl) lacks
  | there other there =>
    constructor
    · intro same
      exact ⟨_, rfl, (named_injective same).symm⟩
    · rintro ⟨own, found, rfl⟩
      cases found
      rfl

/-- When the user that is named has the package, nobody is named exactly when there is no
context. -/
theorem silent_iff (told : NamesFor app text context)
    (has : ∀ user : UserHandle, text = named user.identifier → HasPackage app user) :
    (unnamed = text ∨ ∃ count, several count = text) ↔ context = none := by
  cases told with
  | nobody => exact iff_of_true (.inl rfl) rfl
  | several count more => exact iff_of_true (.inr ⟨count, rfl⟩) rfl
  | lacking other lacks => exact absurd (has other rfl) lacks
  | there other there =>
    refine iff_of_false ?_ nofun
    rintro (same | ⟨count, same⟩)
    · exact named_ne_unnamed _ same.symm
    · exact named_ne_several _ count same.symm

theorem agrees_iff (app : App) :
    Agrees app ↔ Reports app ∧
      ∀ user : UserHandle, Prints app (named user.identifier) → HasPackage app user := by
  by_cases reports : Reports app
  · have ⟨report, returned⟩ := reports
    obtain ⟨profiles, -, -, listed, -⟩ := returned_report returned
    obtain ⟨context, result, told⟩ := line_names listed
    generalize line : (app.workProfileLine profiles).text = text at told
    have prints {other : String} (starts : other.toList.head? = some 'W') :
        Prints app other ↔ other = text := by
      rw [prints_iff listed starts, line, and_iff_right reports]
    constructor
    · intro agrees
      refine ⟨reports, fun user printed => ?_⟩
      obtain ⟨own, found, same⟩ := (agrees.names_iff user.identifier).mp printed
      rw [result] at found
      cases told with
      | there other has =>
        cases found
        have user : other = user := congrArg UserHandle.mk same
        exact user ▸ has
      | _ => cases found
    · rintro ⟨-, packaged⟩
      have has (user : UserHandle) (same : text = named user.identifier) : HasPackage app user :=
        packaged user ((prints (named_head _)).mpr same.symm)
      refine ⟨fun user => ?_, ?_⟩
      · simp only [prints (named_head user), named_iff told has, result, Except.ok.injEq]
      · simp only [prints (rfl : unnamed.toList.head? = some 'W'), prints (several_head _),
          silent_iff told has, result, Except.ok.injEq]
  · exact iff_of_false (unreported_disagrees reports) fun both => reports both.1

/-- A call of a work contact is answered in the context of the work profile of the session's
user. -/
theorem work_call (app : App) {call : IncomingCall} (work : call.isWorkContact = true) :
    (app.hold (app.resolver.callContext call)).result =
      (app.workProfileContext app.device.currentUser).result := by
  unfold Resolver.callContext
  rw [work, if_pos rfl, result_bind app (request_result app .currentUser)]
  rfl

/-- The line of a report is told by the context of the work profile, in which the calls of
work contacts are answered: where a user is named, the context is that user's if the
resolver's package is there for the user, and there is none if it is not. So the report
agrees with the resolver exactly when there is a report and the user that it names, if
any, has the package. -/
theorem work_profile_line_told (app : App) :
    (∀ report, app.report.result = .ok report → ∃ line context,
      lineOf? report "Work profile" = some line ∧
      (app.workProfileContext app.device.currentUser).result = .ok context ∧
      NamesFor app line.text context) ∧
    (Agrees app ↔ Reports app ∧
      ∀ user : UserHandle, Prints app (named user.identifier) → HasPackage app user) ∧
    ∀ call : IncomingCall, call.isWorkContact = true →
      (app.hold (app.resolver.callContext call)).result =
        (app.workProfileContext app.device.currentUser).result := by
  refine ⟨fun report returned => ?_, agrees_iff app, fun call work => work_call app work⟩
  obtain ⟨profiles, vibration, ringtone, listed, -, -, lines⟩ := returned_report returned
  obtain ⟨context, result, told⟩ := line_names listed
  have users : app.usersLine.label = "Users" := rfl
  have package := package_label app
  have work := (work_profile_line app profiles).1
  have there : lineOf? report "Work profile" = some (app.workProfileLine profiles) := by
    simp [lineOf?, lines, users, package, work]
  exact ⟨app.workProfileLine profiles, context, there, result, told⟩

/-- A session's user with one work profile, which has the given packages. -/
def workSettings (packages : List String) : Settings :=
  { device := { users := [⟨0, true, false, true, none, none, []⟩,
    ⟨10, true, true, true, some 0, some packages, []⟩] } }

/-- The report names the profile and nobody else, whatever its packages are. -/
theorem work_profile_named (packages : List String) :
    let app := App.wire (workSettings packages) none []
    ∀ user, Prints app (named user) ↔ user = 10 := by
  intro app user
  have listed : app.device.enabledProfiles app.device.currentUser.identifier =
      .ok [⟨⟨0⟩, false, true, none⟩, ⟨⟨10⟩, true, true, some 0⟩] := rfl
  have reports : Reports app := ⟨_, rfl⟩
  rw [prints_iff listed (named_head user), and_iff_right reports]
  constructor
  · intro same
    exact named_injective (same.trans (named_text 10))
  · rintro rfl
    exact (named_text 10).symm

/-- With the resolver's package the profile is named, and the calls of work contacts are
answered in its context. -/
theorem packaged_profile_told :
    let app := App.wire (workSettings ["org.ringtone.resolver"]) none []
    let call : IncomingCall := ⟨none, some .work, none⟩
    call.isWorkContact = true ∧ Reports app ∧ Agrees app ∧ Prints app (named 10) ∧
      ∃ context, (app.hold (app.resolver.callContext call)).result = .ok (some context) ∧
        context.userId = 10 := by
  intro app call
  obtain ⟨-, agreement, answered⟩ := work_profile_line_told app
  have reports : Reports app := ⟨_, rfl⟩
  have agrees : Agrees app := by
    refine agreement.mpr ⟨reports, fun ⟨user⟩ printed => ?_⟩
    obtain rfl : user = 10 := (work_profile_named _ user).mp printed
    exact ⟨_, rfl, by decide⟩
  have printed : Prints app (named 10) := (work_profile_named _ 10).mpr rfl
  rw [answered call rfl]
  exact ⟨rfl, reports, agrees, printed, (agrees.names_iff 10).mp printed⟩

/-- The settings without any package, as they are written. -/
def packagelessSettings : Value :=
  .map [(.str "device", .map [(.str "users", .list [.map [(.str "id", .int 0)],
    .map [(.str "id", .int 10), (.str "managed", .bool true), (.str "parent", .int 0),
      (.str "packages", .list [])]])])]

/-- A profile without the package is named, though there is no context for it. -/
theorem packageless_profile_disagrees :
    ¬ ∀ (home : String) (raw : Value) (settings : Settings) (files : Files),
      Settings.read home raw = .valid settings → Agrees (App.wire settings none files) := by
  intro always
  have valid : Settings.read "/home/tester" packagelessSettings = .valid (workSettings []) := by
    with_unfolding_all rfl
  have agrees := always _ _ _ [] valid
  obtain ⟨-, packaged⟩ := (agrees_iff _).mp agrees
  obtain ⟨profile, known, has⟩ := packaged ⟨10⟩ ((work_profile_named [] 10).mpr rfl)
  cases known
  exact absurd has (by decide)

end CallTone.WorkProfileLine
