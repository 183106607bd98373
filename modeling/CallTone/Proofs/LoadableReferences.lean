import CallTone.Proofs.ReferenceGrammar
import CallTone.Proofs.SoundPlaces

/-! Which references can be loaded. A reference leads to a path by its own name, when
its scheme is `file`, and else by what the locator answers. It is loaded when a file
that is recognised as a sound stands there. In every other case there is one cause for
which it is not, and the cause fixes the failure. -/
namespace CallTone.LoadableReferences
open ReferenceGrammar SoundPlaces Text

/-- The characters by which a split reference names a file, escapes read. -/
def nameOf (parsed : Uri) : List Char := Percent.decode (parsed.authority ++ parsed.path).toList

section
variable (files : Files) (locator : Engine.Locator) (context : Context) (uri : String)

/-- The reference leads to a path: it names one, or one is found for it. -/
inductive LeadsTo : Path → Prop where
  | named (splits : Splits uri (.ok parsed)) (file : parsed.scheme = "file")
      (name : nameOf parsed ≠ []) : LeadsTo (Path.ofChars (nameOf parsed))
  | located (splits : Splits uri (.ok parsed)) (other : parsed.scheme ≠ "file")
      (found : locator context uri = some path) : LeadsTo path

/-- What stands at a path is recognised as a sound, of a length that may be unknown. -/
inductive Recognised (path : Path) : Option Binary64 → Prop where
  | measured (held : files.get? path.toString = some (.audio length)) : Recognised path length
  | unmeasured (held : files.get? path.toString = some .noInfo) : Recognised path none

/-- The failures of reading a file that count as failures to load its sound. -/
def Absorbed (failure : Failure) : Prop := failure.kind = .decoding ∨ failure.kind.isSystemKind

/-- Why nothing is loaded for a reference, and the failure that tells it. -/
inductive Unloadable : Failure → Prop where
  | refused (splits : Splits uri (.error fault)) : Unloadable ⟨.value, fault.message⟩
  | nameless (splits : Splits uri (.ok parsed)) (file : parsed.scheme = "file")
      (empty : nameOf parsed = []) : Unloadable ⟨.soundLoad, uri ++ ": empty file path"⟩
  | unlocated (splits : Splits uri (.ok parsed)) (other : parsed.scheme ≠ "file")
      (missing : locator context uri = none) :
      Unloadable ⟨.soundLoad, uri ++ ": no media for user " ++ toString context.userId⟩
  | absent (leads : LeadsTo locator context uri path)
      (missing : ∀ entry ∈ files.get? path.toString, entry = .directory) :
      Unloadable ⟨.soundLoad, uri ++ ": " ++ path.toString ++ " does not exist"⟩
  | unreadable {failure : Failure} (leads : LeadsTo locator context uri path)
      (held : files.get? path.toString = some (.unreadable failure)) (absorbed : Absorbed failure) :
      Unloadable
        ⟨.soundLoad, uri ++ ": cannot read " ++ path.toString ++ ": " ++ failure.message⟩
  | broken {failure : Failure} (leads : LeadsTo locator context uri path)
      (held : files.get? path.toString = some (.unreadable failure))
      (foreign : ¬ Absorbed failure) : Unloadable failure
  | unrecognised (leads : LeadsTo locator context uri path)
      (held : files.get? path.toString = some .unknown) :
      Unloadable ⟨.soundLoad, uri ++ ": " ++ path.toString ++ " is not a recognised audio file"⟩

/-- The reference has to be looked up. -/
def LookedUp : Prop := ∃ parsed, Splits uri (.ok parsed) ∧ parsed.scheme ≠ "file"

end

/-! Targets -/

theorem target_of_split (splits : Splits uri (.ok parsed)) :
    Engine.target uri =
      if parsed.scheme = "file" then
        if nameOf parsed = [] then .error ⟨.soundLoad, uri ++ ": empty file path"⟩
        else .ok (some (Path.ofChars (nameOf parsed)))
      else .ok none := by
  have accepted := (splits_iff ..).mp splits
  unfold Engine.target
  rw [accepted]
  dsimp only
  by_cases file : parsed.scheme = "file"
  · rw [if_pos file, if_pos file]
    unfold nameOf
    cases Percent.decode (parsed.authority ++ parsed.path).toList with
    | nil => rfl
    | cons c rest => rfl
  · rw [if_neg file, if_neg file]

theorem target_of_named (splits : Splits uri (.ok parsed)) (file : parsed.scheme = "file")
    (name : nameOf parsed ≠ []) : Engine.target uri = .ok (some (Path.ofChars (nameOf parsed))) := by
  rw [target_of_split splits, if_pos file, if_neg name]

theorem target_of_nameless (splits : Splits uri (.ok parsed)) (file : parsed.scheme = "file")
    (empty : nameOf parsed = []) :
    Engine.target uri = .error ⟨.soundLoad, uri ++ ": empty file path"⟩ := by
  rw [target_of_split splits, if_pos file, if_pos empty]

theorem target_of_other (splits : Splits uri (.ok parsed)) (other : parsed.scheme ≠ "file") :
    Engine.target uri = .ok none := by
  rw [target_of_split splits, if_neg other]

theorem target_of_refused (splits : Splits uri (.error fault)) :
    Engine.target uri = .error ⟨.value, fault.message⟩ := by
  have refused := (splits_iff ..).mp splits
  unfold Engine.target
  rw [refused]

theorem splits_exist (uri : String) : ∃ outcome, Splits uri outcome :=
  ⟨Uri.parse uri, (splits_iff ..).mpr rfl⟩

/-! Loading -/

section
variable {files : Files} {locator : Engine.Locator} {context : Context} {uri : String}
variable (shaper : Option VolumeShaper) (attributes : AudioAttributes)

/-- The path is all that loading takes from a reference that leads to one. -/
theorem leads_outcome (leads : LeadsTo locator context uri path) :
    (Engine.load files locator context uri shaper attributes).outcome =
      (Engine.openFile files uri path).map fun seconds =>
        ⟨uri, path, seconds, attributes, shaper, Binary64.one⟩ := by
  unfold Engine.load
  cases leads with
  | named splits file name =>
    rw [target_of_named splits file name]
    exact (load_at_outcome ..).2
  | located splits other found =>
    rw [target_of_other splits other]
    dsimp only
    rw [found]
    exact (load_at_outcome ..).2

theorem recognised_opens (recognised : Recognised files path seconds) :
    Engine.openFile files uri path = .ok seconds := by
  unfold Engine.openFile
  cases recognised with
  | measured held => rw [held]
  | unmeasured held => rw [held]

/-- A reference that leads to a recognised file is loaded. -/
theorem recognised_loaded (leads : LeadsTo locator context uri path)
    (recognised : Recognised files path seconds) :
    (Engine.load files locator context uri shaper attributes).outcome =
      .ok ⟨uri, path, seconds, attributes, shaper, Binary64.one⟩ := by
  rw [leads_outcome shaper attributes leads, recognised_opens recognised]
  rfl

/-- Each cause for which nothing is loaded has its failure. -/
theorem unloadable_failed {failure : Failure}
    (unloadable : Unloadable files locator context uri failure) :
    (Engine.load files locator context uri shaper attributes).outcome = .error failure := by
  have unopened {path : Path} {failure : Failure} (leads : LeadsTo locator context uri path)
      (closed : Engine.openFile files uri path = .error failure) :
      (Engine.load files locator context uri shaper attributes).outcome = .error failure := by
    rw [leads_outcome shaper attributes leads, closed]
    rfl
  cases unloadable with
  | refused splits =>
    unfold Engine.load
    rw [target_of_refused splits]
  | nameless splits file empty =>
    unfold Engine.load
    rw [target_of_nameless splits file empty]
  | unlocated splits other missing =>
    unfold Engine.load
    rw [target_of_other splits other]
    dsimp only
    rw [missing]
  | absent leads missing =>
    refine unopened leads ?_
    unfold Engine.openFile
    split
    next => rfl
    next => rfl
    all_goals
      rename_i held
      cases missing _ held
  | unreadable leads held absorbed =>
    refine unopened leads ?_
    unfold Engine.openFile
    rw [held]
    exact if_pos absorbed
  | broken leads held foreign =>
    refine unopened leads ?_
    unfold Engine.openFile
    rw [held]
    exact if_neg foreign
  | unrecognised leads held =>
    refine unopened leads ?_
    unfold Engine.openFile
    rw [held]

/-- A file to which a reference leads is recognised, or it is a cause why nothing is
loaded. -/
theorem place_decided (leads : LeadsTo locator context uri path) :
    (∃ seconds, Recognised files path seconds) ∨
      ∃ failure, Unloadable files locator context uri failure := by
  cases held : files.get? path.toString with
  | none => exact .inr ⟨_, .absent leads fun entry member => by simp [held] at member⟩
  | some entry =>
    cases entry with
    | audio length => exact .inl ⟨length, .measured held⟩
    | noInfo => exact .inl ⟨none, .unmeasured held⟩
    | unknown => exact .inr ⟨_, .unrecognised leads held⟩
    | unreadable failure =>
      by_cases absorbed : Absorbed failure
      · exact .inr ⟨_, .unreadable leads held absorbed⟩
      · exact .inr ⟨_, .broken leads held absorbed⟩
    | directory =>
      refine .inr ⟨_, .absent leads fun entry member => ?_⟩
      rw [held] at member
      exact (Option.some.inj member).symm

/-- A reference leads to a recognised file, or there is a cause why nothing is loaded. -/
theorem reference_decided (files : Files) (locator : Engine.Locator) (context : Context)
    (uri : String) :
    (∃ path seconds, LeadsTo locator context uri path ∧ Recognised files path seconds) ∨
      ∃ failure, Unloadable files locator context uri failure := by
  have decided {path : Path} (leads : LeadsTo locator context uri path) :
      (∃ path seconds, LeadsTo locator context uri path ∧ Recognised files path seconds) ∨
        ∃ failure, Unloadable files locator context uri failure :=
    (place_decided leads).imp_left fun ⟨seconds, recognised⟩ => ⟨path, seconds, leads, recognised⟩
  obtain ⟨outcome, splits⟩ := splits_exist uri
  cases outcome with
  | error fault => exact .inr ⟨_, .refused splits⟩
  | ok parsed =>
    by_cases file : parsed.scheme = "file"
    · by_cases empty : nameOf parsed = []
      · exact .inr ⟨_, .nameless splits file empty⟩
      · exact decided (.named splits file empty)
    · cases found : locator context uri with
      | none => exact .inr ⟨_, .unlocated splits file found⟩
      | some path => exact decided (.located splits file found)

/-- What is loaded is what a reference leads to, where that is recognised. -/
theorem loaded_iff :
    (Engine.load files locator context uri shaper attributes).outcome = .ok handle ↔
      ∃ path seconds, LeadsTo locator context uri path ∧ Recognised files path seconds ∧
        handle = ⟨uri, path, seconds, attributes, shaper, Binary64.one⟩ := by
  constructor
  · intro loaded
    rcases reference_decided files locator context uri with
      ⟨path, seconds, leads, recognised⟩ | ⟨failure, unloadable⟩
    · rw [recognised_loaded shaper attributes leads recognised] at loaded
      exact ⟨path, seconds, leads, recognised, (Except.ok.inj loaded).symm⟩
    · rw [unloadable_failed shaper attributes unloadable] at loaded
      cases loaded
  · rintro ⟨path, seconds, leads, recognised, rfl⟩
    exact recognised_loaded shaper attributes leads recognised

/-- Every failure to load has its cause. -/
theorem failed_iff {failure : Failure} :
    (Engine.load files locator context uri shaper attributes).outcome = .error failure ↔
      Unloadable files locator context uri failure := by
  constructor
  · intro failed
    rcases reference_decided files locator context uri with
      ⟨path, seconds, leads, recognised⟩ | ⟨other, unloadable⟩
    · rw [recognised_loaded shaper attributes leads recognised] at failed
      cases failed
    · rw [unloadable_failed shaper attributes unloadable] at failed
      cases failed
      exact unloadable
  · exact unloadable_failed shaper attributes

/-- Only a refused reference, or a file that breaks in another way than by not being
readable as a sound, fails otherwise than as a sound that cannot be loaded. -/
theorem unloadable_kind {failure : Failure}
    (unloadable : Unloadable files locator context uri failure) :
    failure.kind = .soundLoad ∨
      (∃ fault, Splits uri (.error fault) ∧ failure = ⟨.value, fault.message⟩) ∨
      ∃ path, LeadsTo locator context uri path ∧
        files.get? path.toString = some (.unreadable failure) ∧ ¬ Absorbed failure := by
  cases unloadable with
  | refused splits => exact .inr (.inl ⟨_, splits, rfl⟩)
  | broken leads held foreign => exact .inr (.inr ⟨_, leads, held, foreign⟩)
  | _ => exact .inl rfl

/-- The locator is asked for exactly the references that have to be looked up, and no
more than once. -/
theorem asked_iff :
    (LookedUp uri → (Engine.load files locator context uri shaper attributes).asked =
      [(context, uri)]) ∧
      (¬ LookedUp uri → (Engine.load files locator context uri shaper attributes).asked = []) := by
  constructor
  · rintro ⟨parsed, splits, other⟩
    unfold Engine.load
    rw [target_of_other splits other]
    dsimp only
    cases locator context uri with
    | none => rfl
    | some path => exact (load_at_outcome ..).1
  · intro unasked
    obtain ⟨outcome, splits⟩ := splits_exist uri
    unfold Engine.load
    cases outcome with
    | error fault => rw [target_of_refused splits]
    | ok parsed =>
      have file : parsed.scheme = "file" :=
        Decidable.byContradiction fun other => unasked ⟨parsed, splits, other⟩
      by_cases empty : nameOf parsed = []
      · rw [target_of_nameless splits file empty]
      · rw [target_of_named splits file empty]
        exact (load_at_outcome ..).1

end

/-- The engine loads exactly the references that lead to a recognised file, whatever is
asked of it, and the handle has what was given and the file's length, at full volume.
For every other reference it fails by the cause: as a sound that cannot be loaded,
unless the reference is refused or the file breaks in another way. The locator is asked
once for what has to be looked up, and not at all for the rest. -/
theorem loads_exactly_loadable (files : Files) (locator : Engine.Locator) (context : Context)
    (uri : String) (shaper : Option VolumeShaper) (attributes : AudioAttributes) :
    let loading := Engine.load files locator context uri shaper attributes
    (∀ handle, loading.outcome = .ok handle ↔
      ∃ path seconds, LeadsTo locator context uri path ∧ Recognised files path seconds ∧
        handle = ⟨uri, path, seconds, attributes, shaper, Binary64.one⟩) ∧
    (∀ failure, loading.outcome = .error failure ↔ Unloadable files locator context uri failure) ∧
    (∀ failure, loading.outcome = .error failure → failure.kind = .soundLoad ∨
      (∃ fault, Splits uri (.error fault) ∧ failure = ⟨.value, fault.message⟩) ∨
      ∃ path, LeadsTo locator context uri path ∧
        files.get? path.toString = some (.unreadable failure) ∧ ¬ Absorbed failure) ∧
    (LookedUp uri → loading.asked = [(context, uri)]) ∧ (¬ LookedUp uri → loading.asked = []) := by
  intro loading
  refine ⟨fun handle => loaded_iff shaper attributes, fun failure => failed_iff shaper attributes,
    fun failure failed => ?_, asked_iff shaper attributes⟩
  exact unloadable_kind ((failed_iff shaper attributes).mp failed)

end CallTone.LoadableReferences
