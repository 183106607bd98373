import CallTone.Engine

/-! Where a sound is played from. The engine knows a reference only by its
place: the path that the reference names, or else the one at which it is looked
up. What is loaded then is what opens at that place, in whatever context. -/
namespace CallTone.SoundPlaces

/-- The place of a reference in a context, if it has one. -/
def placeOf (locator : Engine.Locator) (context : Context) (uri : String) : Option Path :=
  match Engine.target uri with
  | .error _ => none
  | .ok (some path) => some path
  | .ok none => locator context uri

/-- The handle of the file at a path, when it opens. -/
def handleAt (files : Files) (uri : String) (shaper : Option VolumeShaper)
    (attributes : AudioAttributes) (path : Path) : Option LoadedRingtone :=
  (Engine.openFile files uri path).toOption.map fun seconds =>
    ⟨uri, path, seconds, attributes, shaper, Binary64.one⟩

/-- Whether a file that is recognised as a sound stands at the path. -/
def Opens (files : Files) (path : Path) : Prop :=
  files.get? path.toString = some .noInfo ∨
    ∃ length, files.get? path.toString = some (.audio length)

/-- Loading a reference yields a handle at the path. -/
def LoadsAt (loading : Engine.Loading) (path : Path) : Prop :=
  ∃ handle, loading.outcome = .ok handle ∧ handle.path = path

/-- Loading at a path asks nobody anything more, and its outcome is that of
opening the file. -/
theorem load_at_outcome (files : Files) (uri : String) (path : Path)
    (shaper : Option VolumeShaper) (attributes : AudioAttributes)
    (asked : List (Context × String)) :
    (Engine.loadAt files uri path shaper attributes asked).asked = asked ∧
      (Engine.loadAt files uri path shaper attributes asked).outcome =
        (Engine.openFile files uri path).map fun seconds =>
          ⟨uri, path, seconds, attributes, shaper, Binary64.one⟩ := by
  unfold Engine.loadAt
  cases Engine.openFile files uri path <;> exact ⟨rfl, rfl⟩

/-- What is loaded for a reference is the handle of the file at its place. -/
theorem loaded_handle (files : Files) (locator : Engine.Locator) (context : Context) (uri : String)
    (shaper : Option VolumeShaper) (attributes : AudioAttributes) :
    (Engine.load files locator context uri shaper attributes).outcome.toOption =
      (placeOf locator context uri).bind (handleAt files uri shaper attributes) := by
  have opened (path : Path) (asked : List (Context × String)) :
      (Engine.loadAt files uri path shaper attributes asked).outcome.toOption =
        handleAt files uri shaper attributes path := by
    rw [(load_at_outcome ..).2, handleAt]
    cases Engine.openFile files uri path <;> rfl
  unfold Engine.load placeOf
  cases Engine.target uri with
  | error failure => rfl
  | ok named =>
    cases named with
    | some path => exact opened path []
    | none =>
      dsimp only
      cases locator context uri with
      | none => rfl
      | some path => exact opened path [(context, uri)]

theorem opens_iff (files : Files) (uri : String) (path : Path) :
    Opens files path ↔ ∃ seconds, Engine.openFile files uri path = .ok seconds := by
  unfold Opens Engine.openFile
  cases files.get? path.toString with
  | none => simp
  | some entry =>
    cases entry with
    | unreadable failure =>
      dsimp only
      split <;> simp
    | _ => simp

private theorem handle_at_iff (files : Files) (uri : String) (shaper : Option VolumeShaper)
    (attributes : AudioAttributes) (place path : Path) :
    (∃ handle, handleAt files uri shaper attributes place = some handle ∧ handle.path = path) ↔
      place = path ∧ Opens files path := by
  rw [opens_iff files uri path]
  constructor
  · rintro ⟨handle, opened, rfl⟩
    obtain ⟨seconds, outcome, rfl⟩ := Option.map_eq_some_iff.mp opened
    refine ⟨rfl, seconds, ?_⟩
    cases result : Engine.openFile files uri place with
    | error failure => simp [result, Except.toOption] at outcome
    | ok length => simp_all [Except.toOption]
  · rintro ⟨rfl, seconds, outcome⟩
    refine ⟨⟨uri, place, seconds, attributes, shaper, Binary64.one⟩, ?_, rfl⟩
    rw [handleAt, outcome]
    rfl

/-- A handle is loaded at a path exactly when that is the place of the reference
and the file there opens. -/
theorem loads_at_iff (files : Files) (locator : Engine.Locator) (context : Context) (uri : String)
    (shaper : Option VolumeShaper) (attributes : AudioAttributes) (path : Path) :
    LoadsAt (Engine.load files locator context uri shaper attributes) path ↔
      placeOf locator context uri = some path ∧ Opens files path := by
  have same : LoadsAt (Engine.load files locator context uri shaper attributes) path ↔
      ∃ handle, (Engine.load files locator context uri shaper attributes).outcome.toOption =
        some handle ∧ handle.path = path := by
    unfold LoadsAt
    cases (Engine.load files locator context uri shaper attributes).outcome <;>
      simp [Except.toOption]
  rw [same, loaded_handle]
  cases placeOf locator context uri with
  | none => simp
  | some place => simpa using handle_at_iff files uri shaper attributes place path

end CallTone.SoundPlaces
