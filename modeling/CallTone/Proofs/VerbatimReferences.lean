import CallTone.Proofs.FileReferences

/-! References to local files that mean what they say. A reference that starts
with the plain `file` start can be read in two ways: as the engine reads it, or
by taking the characters after the start as they are. The two agree exactly when
reading has nothing to drop, cut off or unescape. Characters other than slashes
and dots are never lost on the way to a path, so that counting them tells when
reading has lost one. -/
namespace CallTone.VerbatimReferences
open Text PercentDecoding FileReferences

/-- The characters after the plain start are taken as they are: none is dropped,
starts a query or a fragment, or belongs to an escape, and the authority among
them is accepted. -/
def Verbatim (cs : List Char) : Prop :=
  cs ≠ [] ∧ (∀ c ∈ cs, dropped c = false ∧ cuts c = false) ∧ ¬ HasEscape cs ∧
    Accepted (cs.takeWhile fun c => !Uri.endsAuthority c)

/-! Paths -/

private theorem pieces_of_one (cs : List Char) : splitOn '/' cs ≠ [] := by
  cases cs with
  | nil => simp [splitOn]
  | cons c cs =>
    unfold splitOn
    split
    · simp
    · split <;> simp

private theorem weight_of_pieces (cs : List Char) :
    weight (splitOn '/' cs).flatten = weight cs := by
  induction cs with
  | nil => rfl
  | cons c cs ih =>
    by_cases slash : c = '/'
    · subst slash
      exact ih
    · rw [splitOn, if_neg slash]
      cases pieces : splitOn '/' cs with
      | nil => exact absurd pieces (pieces_of_one cs)
      | cons piece rest =>
        rw [pieces] at ih
        simp only [List.flatten_cons, List.cons_append, weight, List.countP_cons] at ih ⊢
        rw [ih]

private theorem weight_of_kept_pieces (pieces : List (List Char)) :
    weight (pieces.filter fun piece => piece ≠ [] ∧ piece ≠ ['.']).flatten =
      weight pieces.flatten := by
  induction pieces with
  | nil => rfl
  | cons piece rest ih =>
    simp only [weight] at ih
    by_cases kept : piece ≠ [] ∧ piece ≠ ['.']
    · rw [List.filter_cons_of_pos (by simpa using kept), weight, List.flatten_cons,
        List.countP_append, ih, weight, List.flatten_cons, List.countP_append]
    · have light : piece.countP solid = 0 := by
        rcases Decidable.not_and_iff_or_not.mp kept with empty | dot
        · rw [not_not.mp empty]; rfl
        · rw [not_not.mp dot]; rfl
      rw [List.filter_cons_of_neg (by simpa using kept), weight, ih, weight, List.flatten_cons,
        List.countP_append, light, Nat.zero_add]

/-- The components of a path have the weight of its text. -/
theorem weight_of_components (cs : List Char) :
    weight ((Path.ofChars cs).components.map String.toList).flatten = weight cs := by
  have written : String.toList ∘ String.ofList = id := by
    funext piece
    exact String.toList_ofList
  rw [Path.ofChars, List.map_map, written, List.map_id, Path.solidPieces, weight_of_kept_pieces,
    weight_of_pieces]

theorem weight_of_same_path (same : Path.ofChars cs = Path.ofChars ds) : weight cs = weight ds := by
  rw [← weight_of_components cs, ← weight_of_components ds, same]

/-! What reading loses -/

private theorem solid_of_dropped (lost : dropped c = true) : solid c = true := by
  have place : c = '\t' ∨ c = '\n' ∨ c = '\r' := of_decide_eq_true lost
  rcases place with rfl | rfl | rfl <;> rfl

private theorem solid_of_cuts (ends : cuts c = true) : solid c = true := by
  have place : c = '#' ∨ c = '?' := of_decide_eq_true ends
  rcases place with rfl | rfl <;> rfl

private theorem weight_of_kept (cs : List Char) :
    weight (keptOf cs) + cs.countP dropped = weight cs := by
  induction cs with
  | nil => rfl
  | cons c cs ih =>
    simp only [weight, keptOf] at ih
    cases lost : dropped c with
    | true =>
      simp only [weight, keptOf, List.filter_cons, List.countP_cons, lost, solid_of_dropped lost,
        Bool.not_true, Bool.false_eq_true, ↓reduceIte]
      omega
    | false =>
      simp only [weight, keptOf, List.filter_cons, List.countP_cons, lost, Bool.not_false,
        Bool.false_eq_true, ↓reduceIte]
      omega

private theorem weight_before_cut (cs : List Char) :
    weight (cs.takeWhile fun c => !cuts c) + cs.countP cuts ≤ weight cs := by
  induction cs with
  | nil => exact Nat.le_refl _
  | cons c cs ih =>
    cases ends : cuts c with
    | true =>
      have light : weight ((c :: cs).takeWhile fun c => !cuts c) = 0 := by simp [ends, weight]
      rw [light, Nat.zero_add]
      exact List.countP_mono_left fun d _ cut => solid_of_cuts cut
    | false =>
      simp only [weight, List.takeWhile_cons, List.countP_cons, ends, Bool.not_false,
        Bool.false_eq_true, ↓reduceIte] at ih ⊢
      omega

private theorem kept_of_stays (stays : ∀ c ∈ cs, dropped c = false) : keptOf cs = cs :=
  List.filter_eq_self.mpr fun c member => by rw [stays c member]; rfl

private theorem named_of_stays (stays : ∀ c ∈ cs, dropped c = false ∧ cuts c = false) :
    namedOf cs = cs := by
  rw [namedOf, kept_of_stays fun c member => (stays c member).1]
  exact List.takeWhile_eq_self_iff.mpr fun c member => by rw [(stays c member).2]; rfl

private theorem stays_of_weight (same : weight (namedOf cs) = weight cs) :
    ∀ c ∈ cs, dropped c = false ∧ cuts c = false := by
  have kept := weight_of_kept cs
  have before := weight_before_cut (keptOf cs)
  rw [← namedOf, same] at before
  have none_lost : cs.countP dropped = 0 := by omega
  have none_cuts : (keptOf cs).countP cuts = 0 := by omega
  have stays : ∀ c ∈ cs, dropped c = false := by simpa [List.countP_eq_zero] using none_lost
  rw [kept_of_stays stays] at none_cuts
  have on : ∀ c ∈ cs, cuts c = false := by simpa [List.countP_eq_zero] using none_cuts
  exact fun c member => ⟨stays c member, on c member⟩

/-- The engine takes the characters after the plain start as they are exactly
when reading has nothing to do with them. -/
theorem verbatim_iff (starts : uri.toList = Device.localStart ++ cs) :
    Engine.target uri = .ok (some (Path.ofChars cs)) ↔ Verbatim cs := by
  rw [file_reference_names_iff starts]
  constructor
  · rintro ⟨accepted, given, same⟩
    have heavy := weight_of_same_path same
    have decoded := weight_decode_le (namedOf cs)
    have kept := weight_of_kept cs
    have before := weight_before_cut (keptOf cs)
    rw [← namedOf] at before
    have stays : ∀ c ∈ cs, dropped c = false ∧ cuts c = false := stays_of_weight (by omega)
    have named := named_of_stays stays
    rw [named] at given heavy
    have free : ¬ HasEscape cs := fun inside => by
      have lighter := weight_decode_lt inside
      omega
    rw [authorityOf, kept_of_stays fun c member => (stays c member).1] at accepted
    rw [decode_without_escape free] at given
    exact ⟨given, stays, free, accepted⟩
  · rintro ⟨given, stays, free, accepted⟩
    rw [named_of_stays stays, decode_without_escape free, authorityOf,
      kept_of_stays fun c member => (stays c member).1]
    exact ⟨accepted, given, rfl⟩

end CallTone.VerbatimReferences
