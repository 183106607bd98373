import CallTone.Proofs.FreshWiring
import CallTone.Proofs.HandleVolumes
import CallTone.Proofs.JsonTexts
import CallTone.Proofs.SelectionProvenance

/-! Descriptions for programs. The JSON text of a description is read back as the members
that it was written from, in the order of their names, as long as the numbers in it are
finite. The volume of a handle always is: the application hands it out full or silent, and
an attempt to change it keeps it in range. So only the length of a sound is left to be
asked for. -/
namespace CallTone.DescriptionTexts
open Dialogue DialogueRuns ResolverRuns SelectionProvenance HandleVolumes JsonStrings JsonTexts

variable {app : App} {handle : LoadedRingtone} {selection : Option (Selection LoadedRingtone)}

/-! What an application selects -/

/-- The application answered the selection, or one whose volume was changed since. -/
inductive Answered (app : App) : Option (Selection LoadedRingtone) → Prop where
  | call {chosen : Option (Selection LoadedRingtone)} (thread : Thread) (call : IncomingCall)
      (shaper : Option VolumeShaper) (muted : Bool)
      (returned : (app.hold (app.resolver.getRingtone thread call shaper muted)).result =
        .ok chosen) : Answered app chosen
  | silent {chosen : Selection LoadedRingtone} (thread : Thread)
      (returned : (app.getHapticOnly thread).result = .ok chosen) : Answered app (some chosen)
  | turned {chosen : Selection LoadedRingtone} (level : Value)
      (answered : Answered app (some chosen)) :
      Answered app (some { chosen with
        handle := chosen.handle.map fun handle => (attempted handle level).2 })

/-- The length of the sound is a real number, if it is known. -/
def FiniteLength (selection : Option (Selection LoadedRingtone)) : Prop :=
  ∀ chosen ∈ selection, ∀ handle ∈ chosen.handle, ∀ seconds ∈ handle.seconds,
    seconds.isFinite = true

/-- The volume of the handle is in range. -/
def Levelled (selection : Option (Selection LoadedRingtone)) : Prop :=
  ∀ chosen ∈ selection, ∀ handle ∈ chosen.handle, InRange handle.volume

theorem load_volume {context : Context} {uri : String} {shaper : Option VolumeShaper}
    {attributes : AudioAttributes}
    (loaded : (app.load context uri shaper attributes).outcome = .ok handle) :
    handle.volume = Binary64.one := by
  have placed := SoundPlaces.loaded_handle app.files app.device.locate context uri shaper
    attributes
  have same : Engine.load app.files app.device.locate context uri shaper attributes =
    app.load context uri shaper attributes := rfl
  rw [same, loaded] at placed
  obtain ⟨path, -, opened⟩ := Option.bind_eq_some_iff.mp placed.symm
  exact FreshWiring.at_volume_one opened

/-- What a load that was asked for in a dialogue was replied with is at full volume. -/
theorem held_volume {dialogue : Dialogue LoadedRingtone α} {load : Load LoadedRingtone}
    (asked : load ∈ loadsOf (dialogue.hold app.collaborators ()).events)
    (given : load.handle = some handle) : handle.volume = Binary64.one := by
  obtain ⟨event, among, picked⟩ := List.mem_filterMap.mp asked
  unfold loadOf at picked
  split at picked
  · next context uri shaper attributes reply remarks =>
    cases picked
    obtain ⟨moment, replied⟩ := held_reply app.collaborators () dialogue among
    cases reply with
    | error failure => cases given
    | ok loaded =>
      cases given
      cases came : (app.load context uri shaper attributes).outcome with
      | error failure => simp [App.collaborators, App.reply, came, Except.map] at replied
      | ok sound =>
        simp only [App.collaborators, App.reply, came, Except.map, Except.ok.injEq,
          Option.some.injEq] at replied
        exact replied ▸ load_volume came
  · cases picked

/-- The handle for a call is one that the engine loaded. -/
theorem call_volume {thread : Thread} {call : IncomingCall} {shaper : Option VolumeShaper}
    {muted : Bool} {chosen : Selection LoadedRingtone}
    (returned : (app.hold (app.resolver.getRingtone thread call shaper muted)).result =
      .ok (some chosen)) (plays : chosen.handle = some handle) :
    handle.volume = Binary64.one := by
  have ended : ((app.resolver.getRingtone thread call shaper muted).hold
    app.collaborators ()).result = .ok (some chosen) := returned
  have ran := hold_run app.collaborators () (app.resolver.getRingtone thread call shaper muted)
  rw [ended] at ran
  obtain ⟨caller, default, origin⟩ :=
    ringtone_provenance (get_ringtone_run (returned_passed ended) ran)
  obtain ⟨load, last, -, given⟩ := origin.selected chosen rfl
  exact held_volume (List.mem_of_getLast? last) (given.trans plays)

/-- Whatever is done to its volume, what an application answered is in range. -/
theorem answered_levelled (answered : Answered app selection) : Levelled selection := by
  induction answered with
  | call thread call shaper muted returned =>
    rintro chosen ⟨⟩ handle plays
    rw [call_volume returned plays]
    decide
  | silent thread returned =>
    rintro chosen ⟨⟩ handle plays
    rw [FreshWiring.silent_volume app thread _ _ returned plays]
    decide
  | turned level answered ih =>
    rintro chosen ⟨⟩ handle plays
    obtain ⟨held, given, rfl⟩ := Option.map_eq_some_iff.mp plays
    rcases attempted_cases held level with ⟨number, -, came⟩ | ⟨failure, -, came⟩
    · rw [came]
      exact comes_to_range (clamp_comes_to number)
    · rw [came]
      exact ih _ rfl held given

/-! Members of an object -/

/-- Under names that differ, each member is found under its own. -/
theorem member_iff {members : List (String × Json)} (distinct : (members.map Prod.fst).Nodup)
    (name : String) (value : Json) :
    (Json.obj members).member? name = some value ↔ (name, value) ∈ members := by
  rw [Json.member?, List.lookup_eq_some_iff]
  constructor
  · rintro ⟨before, after, rfl, -⟩
    exact List.mem_append_right before List.mem_cons_self
  · intro among
    obtain ⟨before, after, rfl⟩ := List.append_of_mem among
    refine ⟨before, after, rfl, fun member earlier => ?_⟩
    rw [List.map_append, List.map_cons] at distinct
    have apart := (List.nodup_append.mp distinct).2.2 member.1 (List.mem_map_of_mem earlier) name
      List.mem_cons_self
    exact bne_iff_ne.mpr apart.symm

/-- The order of members does not matter for what is found under a name. -/
theorem member_of_perm {members others : List (String × Json)} (same : members.Perm others)
    (distinct : (others.map Prod.fst).Nodup) (name : String) :
    (Json.obj members).member? name = (Json.obj others).member? name := by
  have apart := (same.map Prod.fst).nodup_iff.mpr distinct
  refine Option.ext fun value => ?_
  rw [member_iff apart, member_iff distinct, same.mem_iff]

/-! Texts -/

/-- The JSON text of what is shown of a selection. -/
def jsonText (selection : Option (Selection LoadedRingtone)) : String :=
  (Description.ofSelection LoadedRingtone.view selection).render true

/-- The names of what is shown of a handle only. -/
def handleNames : List String := ["path", "duration_seconds", "volume", "haptic_channels_muted"]

/-- The text of what is shown of a selection is ASCII and is read as just that, the members
in the order of their names. Among these are those of a handle if there is one. -/
structure Kept (selection : Option (Selection LoadedRingtone))
    (shown read : List (String × Json)) : Prop where
  shows : (Description.ofSelection LoadedRingtone.view selection).toJson = .obj shown
  ascii : Ascii (jsonText selection).toList
  reads : Json.read (jsonText selection) = some (.obj read)
  same : read.Perm shown
  rising : (read.map Prod.fst).Pairwise (· < ·)
  playable : (Json.obj read).member? "playable" = some (.bool (selection.any Selection.playable))
  handle : ∀ name ∈ handleNames,
    ((Json.obj read).member? name).isSome = selection.any Selection.playable

/-- What is shown of a selection has different names for its members, and no value among
them has members of its own. -/
theorem shown_members (selection : Option (Selection LoadedRingtone)) :
    ∃ shown, (Description.ofSelection LoadedRingtone.view selection).toJson = .obj shown ∧
      (shown.map Prod.fst).Nodup ∧ sortedMembers shown = shown ∧
      (Json.obj shown).member? "playable" = some (.bool (selection.any Selection.playable)) ∧
      ∀ name ∈ handleNames,
        ((Json.obj shown).member? name).isSome = selection.any Selection.playable := by
  simp only [handleNames, List.forall_mem_cons]
  rcases selection with _ | ⟨uri, _ | ⟨_, _, _ | seconds, _, _, _⟩, given⟩
  · exact ⟨_, rfl, by simp, rfl, rfl, rfl, rfl, rfl, rfl, nofun⟩
  · exact ⟨_, rfl, by simp, rfl, rfl, rfl, rfl, rfl, rfl, nofun⟩
  · exact ⟨_, rfl, by simp, rfl, rfl, rfl, rfl, rfl, rfl, nofun⟩
  · exact ⟨_, rfl, by simp, rfl, rfl, rfl, rfl, rfl, rfl, nofun⟩

theorem in_range_finite {volume : Binary64} (within : InRange volume) :
    volume.isFinite = true := by
  obtain ⟨⟨-, -, low⟩, -, -, high⟩ := within
  have zero : Binary64.zero.key = 0 := rfl
  have one : Binary64.one.key = 1023 <<< 52 := rfl
  rw [zero, Binary64.key] at low
  rw [one, Binary64.key] at high
  rw [NearestNumbers.finite_iff, Binary64.infinityMagnitude]
  cases sign : volume.negative with
  | true =>
    rw [sign, if_pos rfl] at low
    omega
  | false =>
    rw [sign, if_neg Bool.false_ne_true] at high
    omega

/-- The numbers in what is shown are the length and the volume. -/
theorem shown_writable (finite : FiniteLength selection) (levelled : Levelled selection) :
    Writable (Description.ofSelection LoadedRingtone.view selection).toJson := by
  rcases selection with _ | ⟨uri, _ | handle, given⟩
  · refine .obj ?_
    simp only [List.forall_mem_cons]
    exact ⟨.null, .bool false, nofun⟩
  · refine .obj ?_
    simp only [List.forall_mem_cons]
    exact ⟨.str uri, .bool false, nofun⟩
  · have seconds : Writable (Json.ofOption .real handle.seconds) := by
      cases length : handle.seconds with
      | none => exact .null
      | some seconds => exact .real (finite _ rfl handle rfl seconds length)
    have volume : Writable (.real handle.volume) :=
      .real (in_range_finite (levelled _ rfl handle rfl))
    refine .obj ?_
    simp only [List.forall_mem_cons]
    exact ⟨.str uri, .bool true, .str _, seconds, volume, .bool _, nofun⟩

/-- Where its numbers are finite, what is shown of a selection is kept by its text. -/
theorem levelled_kept (finite : FiniteLength selection) (levelled : Levelled selection) :
    ∃ shown read, Kept selection shown read := by
  obtain ⟨shown, shows, distinct, flat, playable, handle⟩ := shown_members selection
  have writable := shown_writable finite levelled
  have text : jsonText selection = (Json.obj shown).indented := by rw [← shows]; rfl
  rw [shows] at writable
  have reads := text_read writable
  rw [sorted, flat, ← text] at reads
  have same := sort_perm shown
  refine ⟨shown, Json.sortMembers shown, shows, ?_, reads, same, sort_rising distinct, ?_, ?_⟩
  · rw [text, Json.indented, String.toList_ofList]
    exact text_ascii writable 0
  · rw [member_of_perm same distinct, playable]
  · intro name among
    rw [member_of_perm same distinct, handle name among]

/-- What the command for calls writes for programs is the text of what the application
answered. -/
theorem resolve_text_answered {ringtone caller : Option String} {user : Option Int} {muted : Bool}
    {text : String} (written : (app.resolveText ringtone caller user muted true).result = .ok text) :
    ∃ selection, Answered app selection ∧ text = jsonText selection := by
  unfold App.resolveText at written
  split at written
  · cases written
  · next call described =>
    unfold App.getRingtone at written
    split at written
    · cases written
    · next shaper made =>
      cases returned : (app.hold (app.resolver.getRingtone App.worker (app.withUser call) shaper
        muted)).result with
      | error failure => simp [App.Answer.map, returned, Except.map] at written
      | ok selection =>
        simp only [App.Answer.map, returned, Except.map, Except.ok.injEq] at written
        exact ⟨selection, .call _ _ _ _ returned, written.symm⟩

/-- So is what the command for silent rings writes. -/
theorem haptic_text_answered {text : String}
    (written : (app.hapticText true).result = .ok text) :
    ∃ selection, Answered app selection ∧ text = jsonText selection := by
  unfold App.hapticText at written
  cases returned : (app.getHapticOnly App.worker).result with
  | error failure => simp [App.Answer.map, returned, Except.map] at written
  | ok selection =>
    simp only [App.Answer.map, returned, Except.map, Except.ok.injEq] at written
    exact ⟨some selection, .silent _ returned, written.symm⟩

/-- What the commands write for programs about an application. -/
inductive Written (app : App) : String → Prop where
  | call (written : (app.resolveText ringtone caller user muted true).result = .ok text) :
      Written app text
  | silent (written : (app.hapticText true).result = .ok text) : Written app text

theorem written_answered (written : Written app text) :
    ∃ selection, Answered app selection ∧ text = jsonText selection := by
  cases written with
  | call written => exact resolve_text_answered written
  | silent written => exact haptic_text_answered written

/-- The JSON text of a selection, or of none, keeps what is shown of it, whatever its
reference and path are, when the length of its sound is a real number and its volume is in
range. The latter is true of everything that an application answers, and the commands write
the text of such an answer. -/
theorem selection_texts_kept :
    (∀ selection, FiniteLength selection → Levelled selection →
      ∃ shown read, Kept selection shown read) ∧
    (∀ app selection, Answered app selection → FiniteLength selection →
      ∃ shown read, Kept selection shown read) ∧
    ∀ app text, Written app text →
      ∃ selection, Answered app selection ∧ text = jsonText selection := by
  refine ⟨fun selection finite levelled => levelled_kept finite levelled, ?_, ?_⟩
  · intro app selection answered finite
    exact levelled_kept finite (answered_levelled answered)
  · intro app text written
    exact written_answered written

/-- A reference with a quote, a backslash, a control character and a character above the
first plane. -/
def strangeUri : String := "content://\"\\\x01𝄞"

/-- What the engine loads for such a reference, at a path of such characters. -/
def strangeSound : LoadedRingtone :=
  ⟨strangeUri, ⟨.one, ["\"\\\x7f𝄞.ogg"]⟩, some ⟨false, 4591870180066957722, by decide⟩,
    AudioAttributes.ringtone true, none, Binary64.one⟩

/-- An application that has the sound among its media and its files. -/
def strangeApp : App :=
  App.wire { device := { media := [(strangeUri, strangeSound.path)] } } none
    [(strangeSound.path.toString, .audio strangeSound.seconds)]

/-- The selection of the sound at a volume. -/
def strangeSelection (volume : Binary64) : Option (Selection LoadedRingtone) :=
  some ⟨strangeUri, some { strangeSound with volume := volume }, by decide⟩

theorem strange_texts_kept :
    let turned := strangeSelection (LoadedRingtone.clamp Binary64.nan)
    let loaded := strangeSelection Binary64.one
    (FiniteLength turned ∧ Levelled turned ∧ ∃ shown read, Kept turned shown read) ∧
      Answered strangeApp loaded ∧ FiniteLength loaded ∧ ∃ shown read, Kept loaded shown read := by
  have answered : Answered strangeApp (strangeSelection Binary64.one) :=
    .call App.worker ⟨some strangeUri, none, some ⟨0⟩⟩ none true rfl
  have finite (volume : Binary64) : FiniteLength (strangeSelection volume) := by
    rintro chosen ⟨⟩ handle ⟨⟩ seconds ⟨⟩
    decide
  have levelled : Levelled (strangeSelection (LoadedRingtone.clamp Binary64.nan)) := by
    rintro chosen ⟨⟩ handle ⟨⟩
    decide
  exact ⟨⟨finite _, levelled, selection_texts_kept.1 _ (finite _) levelled⟩, answered, finite _,
    selection_texts_kept.2.1 strangeApp _ answered (finite _)⟩

end CallTone.DescriptionTexts
