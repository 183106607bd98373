import CallTone.Engine
import CallTone.Proofs.VolumeCurves

/-! The volume of a handle. An attempt to set it first makes out the level that a raw
value denotes, which may fail, and only then stores it, brought between 0 and 1. So the
volume after any attempts is read off the last level that was made out, and no attempt
can take it out of its range or make it a NaN. -/
namespace CallTone.HandleVolumes
open LoadedRingtone VolumeCurves

variable {level volume : Binary64} {ringtone : LoadedRingtone}

/-! One level -/

/-- The volume lies between silence and full volume. Neither is a NaN then. -/
def InRange (volume : Binary64) : Prop := Binary64.zero ≤ volume ∧ volume ≤ Binary64.one

instance (volume : Binary64) : Decidable (InRange volume) := inferInstanceAs (Decidable (_ ∧ _))

/-- The volume that a level comes to: the level itself between 0 and 1, the nearer end
outside of it, and 0 when it does not compare. -/
structure ComesTo (level volume : Binary64) : Prop where
  unordered : level.isNaN = true → volume = Binary64.zero
  below : level ≤ Binary64.zero → volume = Binary64.zero
  between : Binary64.zero < level → level < Binary64.one → volume = level
  above : Binary64.one ≤ level → volume = Binary64.one

theorem in_range_number (within : InRange volume) : volume.isNaN = false := within.1.2.1

/-- A level that is not at or before a bound is after it, unless it is a NaN. -/
theorem le_or_lt (bound : Binary64) (real : bound.isNaN = false) (level : Binary64) :
    level.isNaN = true ∨ level ≤ bound ∨ bound < level := by
  rw [Binary64.le_def, Binary64.lt_def]
  cases level.isNaN with
  | true => exact .inl rfl
  | false =>
    by_cases before : level.key ≤ bound.key
    · exact .inr (.inl ⟨rfl, real, before⟩)
    · exact .inr (.inr ⟨real, rfl, Int.not_le.mp before⟩)

theorem not_lt_of_le {x y : Binary64} (before : x ≤ y) : ¬ y < x := by
  rw [Binary64.lt_def]
  rintro ⟨-, -, after⟩
  exact Int.not_le.mpr after before.2.2

theorem not_lt_of_nan (unordered : level.isNaN = true) : ¬ Binary64.zero < level := by
  rw [Binary64.lt_def, unordered]
  rintro ⟨-, real, -⟩
  cases real

/-- The bounds are tried from below. A NaN is not above the lower one, so it becomes 0. -/
theorem clamp_comes_to (level : Binary64) : ComesTo level (clamp level) where
  unordered := by
    intro unordered
    rw [clamp, Binary64.larger, if_neg (not_lt_of_nan unordered)]
    decide
  below := by
    intro low
    rw [clamp, Binary64.larger, if_neg (not_lt_of_le low)]
    decide
  between := by
    intro above below
    rw [clamp, Binary64.larger, if_pos above, Binary64.smaller, if_pos below]
  above := by
    intro high
    have above : Binary64.zero < level := by
      refine ⟨rfl, high.2.1, Int.lt_of_lt_of_le ?_ high.2.2⟩
      decide
    rw [clamp, Binary64.larger, if_pos above, Binary64.smaller, if_neg (not_lt_of_le high)]

/-- Whatever the level, what it comes to is in range. -/
theorem comes_to_range (comes : ComesTo level volume) : InRange volume := by
  have ends : InRange Binary64.zero ∧ InRange Binary64.one := by decide
  rcases le_or_lt Binary64.zero rfl level with unordered | low | above
  · exact comes.unordered unordered ▸ ends.1
  · exact comes.below low ▸ ends.1
  rcases le_or_lt Binary64.one rfl level with unordered | upTo | high
  · exact comes.unordered unordered ▸ ends.1
  · by_cases below : level < Binary64.one
    · rw [comes.between above below]
      exact ⟨le_of_lt above, upTo⟩
    · have reached : Binary64.one ≤ level := by
        refine ⟨rfl, upTo.1, Int.not_lt.mp fun earlier => below ⟨upTo.1, rfl, earlier⟩⟩
      exact comes.above reached ▸ ends.2
  · exact comes.above (le_of_lt high) ▸ ends.2

/-! One attempt -/

/-- What an attempt to set the volume comes to, and the handle after it: the one it was
when the attempt fails. -/
def attempted (ringtone : LoadedRingtone) (level : Value) :
    Except Failure Unit × LoadedRingtone :=
  match ringtone.trySetVolume level with
  | .ok changed => (.ok (), changed)
  | .error failure => (.error failure, ringtone)

/-- An attempt stores the level, or fails and stores nothing. -/
theorem attempted_cases (ringtone : LoadedRingtone) (level : Value) :
    (∃ number, levelOf level = .ok number ∧
      attempted ringtone level = (.ok (), { ringtone with volume := clamp number })) ∨
    ∃ failure, levelOf level = .error failure ∧
      attempted ringtone level = (.error failure, ringtone) := by
  unfold attempted trySetVolume
  cases made : levelOf level with
  | ok number => exact .inl ⟨number, rfl, rfl⟩
  | error failure => exact .inr ⟨failure, rfl, rfl⟩

/-! Any attempts -/

/-- The handle after attempts, each made on what the one before it left. -/
def after (ringtone : LoadedRingtone) (levels : List Value) : LoadedRingtone :=
  levels.foldl (fun held level => (attempted held level).2) ringtone

/-- The level that a raw value is accepted as, if it is. -/
def accepted? (level : Value) : Option Binary64 := (levelOf level).toOption

/-- The last level that was accepted. -/
def lastAccepted? (levels : List Value) : Option Binary64 := (levels.filterMap accepted?).getLast?

theorem after_append (ringtone : LoadedRingtone) (levels : List Value) (level : Value) :
    after ringtone (levels ++ [level]) = (attempted (after ringtone levels) level).2 := by
  rw [after, List.foldl_append]
  rfl

/-- A later level counts before all earlier ones when it is accepted, and not at all when
it is not. -/
theorem last_accepted_append (levels : List Value) (level : Value) :
    lastAccepted? (levels ++ [level]) = (accepted? level).or (lastAccepted? levels) := by
  rw [lastAccepted?, lastAccepted?, List.filterMap_append, List.getLast?_append]
  cases accepted : accepted? level <;> simp [accepted]

/-- After any attempts a handle has the volume that the last accepted level comes to, or
the one that it started with, and is otherwise as it was. -/
theorem after_eq (ringtone : LoadedRingtone) (levels : List Value) :
    after ringtone levels =
      { ringtone with
        volume := ((lastAccepted? levels).map clamp).getD ringtone.volume } := by
  induction levels using List.reverseRecOn with
  | nil => rfl
  | append_singleton levels level ih =>
    rw [after_append, last_accepted_append]
    rcases attempted_cases (after ringtone levels) level with
      ⟨number, made, came⟩ | ⟨failure, made, came⟩
    · have accepted : accepted? level = some number := by rw [accepted?, made]; rfl
      rw [came, accepted, ih]
      rfl
    · have refused : accepted? level = none := by rw [accepted?, made]; rfl
      rw [came, refused, ih]
      rfl

/-- A volume in range stays in range. -/
theorem after_in_range (within : InRange ringtone.volume) (levels : List Value) :
    InRange (after ringtone levels).volume := by
  rw [after_eq]
  cases lastAccepted? levels with
  | none => exact within
  | some number => exact comes_to_range (clamp_comes_to number)

/-- A handle that starts at full volume has a volume between 0 and 1 after any attempts
to set it: the one that the last accepted level comes to, or still the full one. A further
attempt stores its level, or fails and leaves the handle as it was. -/
theorem volume_follows_levels (uri : String) (path : Path) (seconds : Option Binary64)
    (attributes : AudioAttributes) (shaper : Option VolumeShaper) (levels : List Value) :
    let opened : LoadedRingtone := ⟨uri, path, seconds, attributes, shaper, Binary64.one⟩
    let held := after opened levels
    InRange held.volume ∧ held.volume.isNaN = false ∧
    (match lastAccepted? levels with
      | none => held.volume = Binary64.one
      | some level => ComesTo level held.volume) ∧
    held = { opened with volume := held.volume } ∧
    ∀ level,
      (∃ number, levelOf level = .ok number ∧ ComesTo number (attempted held level).2.volume ∧
        attempted held level =
          (.ok (), { held with volume := (attempted held level).2.volume })) ∨
      ∃ failure, levelOf level = .error failure ∧
        attempted held level = (.error failure, held) := by
  intro opened held
  have within : InRange held.volume := after_in_range (by decide : InRange Binary64.one) levels
  have stored : held = _ := after_eq opened levels
  refine ⟨within, in_range_number within, ?_, ?_, fun level => ?_⟩
  · rw [stored]
    cases lastAccepted? levels with
    | none => rfl
    | some level => exact clamp_comes_to level
  · rw [stored]
  · rcases attempted_cases held level with ⟨number, made, came⟩ | refused
    · refine .inl ⟨number, made, ?_, ?_⟩
      · rw [came]
        exact clamp_comes_to number
      · rw [came]
    · exact .inr refused

/-- What is no number at all is refused, so that the NaN before it counts. -/
example : (lastAccepted? [.real Binary64.nan, .null]).map clamp = some Binary64.zero := by
  decide

end CallTone.HandleVolumes
