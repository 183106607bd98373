import CallTone.Audio
import Mathlib.Data.List.Chain

/-! Which numbers are accepted as a volume curve. A curve is drawn through points in
time, each later than the one before. Acceptance asks only that no time is at or before
the one that precedes it, and a NaN is neither at nor before nor after any number. So
every curve is accepted, and what is accepted is a curve unless a NaN stands among its
times. -/
namespace CallTone.VolumeCurves
open VolumeShaper (Fault stepsBack spansUnit isGain make)

variable {durationMs : Int} {times volumes : List Binary64} {shaper : VolumeShaper}

/-! The order of numbers -/

/-- Of two numbers the second is not at or before the first when it is later, or when
one of them is a NaN. -/
theorem not_le_iff (previous current : Binary64) :
    ¬ current ≤ previous ↔
      previous < current ∨ previous.isNaN = true ∨ current.isNaN = true := by
  rw [Binary64.le_def, Binary64.lt_def]
  cases previous.isNaN <;> cases current.isNaN <;> simp

theorem lt_trans {x y z : Binary64} (first : x < y) (second : y < z) : x < z := by
  rw [Binary64.lt_def] at first second ⊢
  exact ⟨first.1, second.2.1, Int.lt_trans first.2.2 second.2.2⟩

instance : Trans (α := Binary64) (· < ·) (· < ·) (· < ·) := ⟨lt_trans⟩

theorem le_of_lt {x y : Binary64} (less : x < y) : x ≤ y :=
  ⟨less.1, less.2.1, Int.le_of_lt less.2.2⟩

/-- Equal numbers are at or before each other. -/
theorem equals_iff {x y : Binary64} : x.equals y = true ↔ x ≤ y ∧ y ≤ x := by
  rw [Binary64.le_def, Binary64.le_def, Binary64.equals]
  simp only [Bool.and_eq_true, Bool.not_eq_true', beq_iff_eq]
  grind

theorem le_trans {x y z : Binary64} (first : x ≤ y) (second : y ≤ z) : x ≤ z := by
  rw [Binary64.le_def] at first second ⊢
  exact ⟨first.1, second.2.1, Int.le_trans first.2.2 second.2.2⟩

/-! Curves -/

/-- The numbers are the points of a curve in time from 0 to 1, when `follows` relates
each time to the next. -/
structure Points (follows : Binary64 → Binary64 → Prop) (durationMs : Int)
    (times volumes : List Binary64) : Prop where
  lasting : 0 < durationMs
  given : times ≠ []
  paired : times.length = volumes.length
  starts : ∃ first, times.head? = some first ∧ first.equals Binary64.zero = true
  ends : ∃ last, times.getLast? = some last ∧ last.equals Binary64.one = true
  following : times.IsChain follows
  gains : ∀ volume ∈ volumes, Binary64.zero ≤ volume ∧ volume ≤ Binary64.one

/-- A curve: each time is later than the one before it. -/
abbrev IsCurve : Int → List Binary64 → List Binary64 → Prop := Points (· < ·)

/-- A later time, or one that does not compare with the one before it. -/
def LaterOrUnordered (previous current : Binary64) : Prop :=
  previous < current ∨ previous.isNaN = true ∨ current.isNaN = true

theorem points_mono {follows weaker : Binary64 → Binary64 → Prop}
    (points : Points follows durationMs times volumes)
    (implies : ∀ previous current, previous ∈ times → current ∈ times →
      follows previous current → weaker previous current) :
    Points weaker durationMs times volumes :=
  { points with following := points.following.imp_of_mem_imp implies }

/-- The times of a curve are in order, not only neighbouring ones, so that none
repeats. -/
theorem curve_pairwise (curve : IsCurve durationMs times volumes) : times.Pairwise (· < ·) :=
  curve.following.pairwise

/-- The times of a curve lie between its start and its end. -/
theorem curve_within (curve : IsCurve durationMs times volumes) :
    ∀ time ∈ times, Binary64.zero ≤ time ∧ time ≤ Binary64.one := by
  intro time among
  have ordered := curve_pairwise curve
  obtain ⟨first, head, start⟩ := curve.starts
  obtain ⟨last, tail, finish⟩ := curve.ends
  constructor
  · obtain ⟨rest, rfl⟩ := List.head?_eq_some_iff.mp head
    have begins := (equals_iff.mp start).2
    rcases List.mem_cons.mp among with rfl | later
    · exact begins
    · exact le_trans begins (le_of_lt ((List.pairwise_cons.mp ordered).1 time later))
  · obtain ⟨before, rfl⟩ := List.getLast?_eq_some_iff.mp tail
    have stops := (equals_iff.mp finish).1
    rcases List.mem_append.mp among with earlier | own
    · exact le_trans
        (le_of_lt ((List.pairwise_append.mp ordered).2.2 time earlier last (by simp))) stops
    · rwa [List.mem_singleton.mp own]

/-! Acceptance -/

theorem steps_back_iff (times : List Binary64) :
    stepsBack times = false ↔ times.IsChain LaterOrUnordered := by
  induction times with
  | nil => simp [stepsBack]
  | cons previous rest ih =>
    cases rest with
    | nil => simp [stepsBack]
    | cons current rest =>
      rw [stepsBack, Bool.or_eq_false_iff, decide_eq_false_iff_not, not_le_iff, ih,
        List.isChain_cons_cons, LaterOrUnordered]

theorem spans_unit_iff (times : List Binary64) :
    spansUnit times = true ↔
      (∃ first, times.head? = some first ∧ first.equals Binary64.zero = true) ∧
        ∃ last, times.getLast? = some last ∧ last.equals Binary64.one = true := by
  unfold spansUnit
  cases head : times.head? with
  | none => simp
  | some first =>
    cases tail : times.getLast? with
    | none => simp
    | some last => simp

theorem gains_iff (volumes : List Binary64) :
    (volumes.find? fun volume => !isGain volume) = none ↔
      ∀ volume ∈ volumes, Binary64.zero ≤ volume ∧ volume ≤ Binary64.one := by
  simp [List.find?_eq_none, isGain]

/-- A check that comes before others is passed when it finds no fault. -/
theorem passes_iff {faulty : Prop} [Decidable faulty] {fault : Fault}
    {rest : Except Fault VolumeShaper} :
    (if faulty then .error fault else rest) = .ok shaper ↔ ¬ faulty ∧ rest = .ok shaper := by
  split
  next found => simp [found]
  next fine => simp [fine]

/-- The checks in the order in which they are made. What passes them is kept as it is. -/
theorem make_checks (durationMs : Int) (times volumes : List Binary64) (shaper : VolumeShaper) :
    make durationMs times volumes = .ok shaper ↔
      0 < durationMs ∧ (times ≠ [] ∧ times.length = volumes.length) ∧ spansUnit times = true ∧
        stepsBack times = false ∧ (volumes.find? fun volume => !isGain volume) = none ∧
        shaper = ⟨durationMs, times, volumes⟩ := by
  have kept : Except.ok ⟨durationMs, times, volumes⟩ = (.ok shaper : Except Fault VolumeShaper) ↔
      shaper = ⟨durationMs, times, volumes⟩ :=
    ⟨fun same => (Except.ok.inj same).symm, fun same => congrArg Except.ok same.symm⟩
  rw [make, passes_iff, passes_iff, passes_iff, passes_iff]
  cases volumes.find? fun volume => !isGain volume with
  | none => simp [kept]
  | some volume => simp

/-- Numbers are accepted when each time is later than the one before it or does not
compare with it. -/
theorem make_iff (durationMs : Int) (times volumes : List Binary64) (shaper : VolumeShaper) :
    make durationMs times volumes = .ok shaper ↔
      Points LaterOrUnordered durationMs times volumes ∧ shaper = ⟨durationMs, times, volumes⟩ := by
  rw [make_checks, spans_unit_iff, steps_back_iff, gains_iff]
  constructor
  · rintro ⟨lasting, ⟨given, paired⟩, ⟨starts, ends⟩, following, gains, kept⟩
    exact ⟨⟨lasting, given, paired, starts, ends, following, gains⟩, kept⟩
  · rintro ⟨points, kept⟩
    exact ⟨points.lasting, ⟨points.given, points.paired⟩, ⟨points.starts, points.ends⟩,
      points.following, points.gains, kept⟩

/-- A curve is what is accepted without a NaN among the times. -/
theorem curve_iff : IsCurve durationMs times volumes ↔
    Points LaterOrUnordered durationMs times volumes ∧ ∀ time ∈ times, time.isNaN = false := by
  constructor
  · intro curve
    refine ⟨points_mono curve fun _ _ _ _ later => .inl later, fun time among => ?_⟩
    exact (curve_within curve time among).1.2.1
  · rintro ⟨points, numbers⟩
    refine points_mono points fun previous current before after follows => ?_
    rcases follows with later | unordered | unordered
    · exact later
    · exact absurd unordered (by simp [numbers previous before])
    · exact absurd unordered (by simp [numbers current after])

/-- Numbers are accepted, and kept as they are, exactly when they are the points of a
curve but for times that do not compare. Every curve is accepted, with its times in
order between 0 and 1; and what is accepted is a curve when no time is a NaN. -/
theorem shaper_accepted_iff (durationMs : Int) (times volumes : List Binary64) :
    (∀ shaper, make durationMs times volumes = .ok shaper ↔
      Points LaterOrUnordered durationMs times volumes ∧
        shaper = ⟨durationMs, times, volumes⟩) ∧
    (IsCurve durationMs times volumes →
      make durationMs times volumes = .ok ⟨durationMs, times, volumes⟩ ∧
      times.Pairwise (· < ·) ∧ ∀ time ∈ times, Binary64.zero ≤ time ∧ time ≤ Binary64.one) ∧
    ((∀ time ∈ times, time.isNaN = false) →
      ((∃ shaper, make durationMs times volumes = .ok shaper) ↔
        IsCurve durationMs times volumes)) := by
  refine ⟨make_iff durationMs times volumes, fun curve => ?_, fun numbers => ?_⟩
  · have accepted := (make_iff durationMs times volumes _).mpr ⟨(curve_iff.mp curve).1, rfl⟩
    exact ⟨accepted, curve_pairwise curve, curve_within curve⟩
  · constructor
    · rintro ⟨shaper, accepted⟩
      exact curve_iff.mpr ⟨((make_iff ..).mp accepted).1, numbers⟩
    · intro curve
      exact ⟨_, (make_iff ..).mpr ⟨(curve_iff.mp curve).1, rfl⟩⟩

/-- The number one half. -/
def half : Binary64 := ⟨false, 1022 <<< 52, by decide⟩

/-- A curve that rises and falls again. -/
theorem swell_accepted :
    let times := [Binary64.zero, half, Binary64.one]
    let volumes := [Binary64.zero, Binary64.one, half]
    IsCurve 10 times volumes ∧ (∀ time ∈ times, time.isNaN = false) ∧
      make 10 times volumes = .ok ⟨10, times, volumes⟩ ∧ times.Pairwise (· < ·) ∧
      (∀ time ∈ times, Binary64.zero ≤ time ∧ time ≤ Binary64.one) ∧
      ∃ shaper, make 10 times volumes = .ok shaper := by
  intro times volumes
  have curve : IsCurve 10 times volumes :=
    ⟨by decide, by decide, rfl, ⟨_, rfl, by decide⟩, ⟨_, rfl, by decide⟩, by decide, by decide⟩
  have numbers : ∀ time ∈ times, time.isNaN = false := by decide
  obtain ⟨-, holds, exact_if⟩ := shaper_accepted_iff 10 times volumes
  obtain ⟨accepted, ordered, within⟩ := holds curve
  exact ⟨curve, numbers, accepted, ordered, within, (exact_if numbers).mpr curve⟩

/-- A NaN among the times lets them be accepted though they are no curve; they may even
go back where it stands. -/
theorem unordered_time_accepted :
    ¬ ∀ (durationMs : Int) (times volumes : List Binary64),
      (∃ shaper, make durationMs times volumes = .ok shaper) ↔
        IsCurve durationMs times volumes := by
  intro always
  let times := [Binary64.zero, Binary64.one, Binary64.nan, half, Binary64.one]
  let volumes := List.replicate 5 Binary64.zero
  have accepted : make 10 times volumes = .ok ⟨10, times, volumes⟩ := by decide
  have curve := (always 10 times volumes).mp ⟨_, accepted⟩
  exact absurd (curve_within curve Binary64.nan (by decide)) (by decide)

end CallTone.VolumeCurves
