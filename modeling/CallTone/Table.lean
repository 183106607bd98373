/-!
Tables: keys with values in the order in which the keys first came. Writing a known key replaces its
value in place, writing a new one adds it at the end. The lemmas say what reading a key gives after
each operation, and which keys and entries a table has after it.
-/
namespace CallTone

abbrev Table (κ α : Type) := List (κ × α)

namespace Table

variable {κ α : Type} [DecidableEq κ]

def get? (table : Table κ α) (key : κ) : Option α :=
  match table with
  | [] => none
  | (k, a) :: rest => if k = key then some a else get? rest key

def insert (table : Table κ α) (key : κ) (value : α) : Table κ α :=
  match table with
  | [] => [(key, value)]
  | (k, a) :: rest => if k = key then (key, value) :: rest else (k, a) :: insert rest key value

def erase (table : Table κ α) (key : κ) : Table κ α := table.filter fun entry => entry.1 ≠ key

/-- The table of a list of pairs, written one after the other. -/
def ofPairs (pairs : List (κ × α)) : Table κ α :=
  pairs.foldl (fun table entry => insert table entry.1 entry.2) []

@[simp] theorem get?_nil (key : κ) : get? ([] : Table κ α) key = none := rfl

theorem get?_insert (table : Table κ α) (key probe : κ) (value : α) :
    get? (insert table key value) probe = if key = probe then some value else get? table probe := by
  induction table with
  | nil => simp [insert, get?]
  | cons entry rest ih =>
    obtain ⟨k, a⟩ := entry
    by_cases same : k = key
    · subst same
      by_cases hit : k = probe <;> simp [insert, get?, hit]
    · by_cases hit : k = probe
      · subst hit
        simp [insert, get?, same, Ne.symm same]
      · simp [insert, get?, same, hit, ih]

theorem get?_erase (table : Table κ α) (key probe : κ) :
    get? (erase table key) probe = if key = probe then none else get? table probe := by
  induction table with
  | nil => simp [erase, get?]
  | cons entry rest ih =>
    obtain ⟨k, a⟩ := entry
    simp only [erase] at ih
    by_cases same : k = key
    · subst same
      by_cases hit : k = probe <;> simp_all [erase, get?]
    · by_cases hit : k = probe
      · subst hit
        simp [erase, get?, same, Ne.symm same]
      · simp only [ne_eq, decide_not] at ih
        simp [erase, get?, same, hit, ih]

/-! Keys and entries -/

theorem keys_insert (table : Table κ α) (key : κ) (value : α) :
    (insert table key value).map Prod.fst =
      if key ∈ table.map Prod.fst then table.map Prod.fst else table.map Prod.fst ++ [key] := by
  induction table with
  | nil => simp [insert]
  | cons entry rest ih =>
    obtain ⟨first, held⟩ := entry
    by_cases same : first = key
    · simp [insert, same]
    · by_cases later : key ∈ rest.map Prod.fst <;> simp_all [insert, Ne.symm same]

/-- Writing a value leaves each key once. -/
theorem nodup_insert {table : Table κ α} (distinct : (table.map Prod.fst).Nodup) (key : κ)
    (value : α) : ((insert table key value).map Prod.fst).Nodup := by
  rw [keys_insert]
  split
  next => exact distinct
  next fresh =>
    refine List.nodup_append.mpr ⟨distinct, List.pairwise_singleton .., ?_⟩
    intro held known other single same
    rw [List.mem_singleton.mp single] at same
    exact fresh (same ▸ known)

/-- A table that is written has each key once. -/
theorem nodup_ofPairs (pairs : List (κ × α)) : ((ofPairs pairs).map Prod.fst).Nodup := by
  refine List.foldlRecOn (motive := fun table : Table κ α => (table.map Prod.fst).Nodup) pairs _
    List.nodup_nil ?_
  intro table distinct pair _
  exact nodup_insert distinct pair.1 pair.2

theorem mem_insert {table : Table κ α} (member : entry ∈ insert table key value) :
    entry = (key, value) ∨ entry ∈ table := by
  induction table with
  | nil => exact .inl (List.mem_singleton.mp member)
  | cons first rest ih =>
    obtain ⟨known, held⟩ := first
    unfold insert at member
    split at member
    · exact (List.mem_cons.mp member).imp_right (List.mem_cons_of_mem _)
    · rcases List.mem_cons.mp member with rfl | later
      · exact .inr List.mem_cons_self
      · exact (ih later).imp_right (List.mem_cons_of_mem _)

/-- What a table holds is among the pairs that were written into it. -/
theorem mem_ofPairs (pairs : List (κ × α)) : ∀ entry ∈ ofPairs pairs, entry ∈ pairs := by
  refine List.foldlRecOn (motive := fun table => ∀ entry ∈ table, entry ∈ pairs) pairs _ nofun ?_
  intro table among pair given entry member
  rcases mem_insert member with rfl | before
  · exact given
  · exact among entry before

theorem insert_fresh {table : Table κ α} (fresh : key ∉ table.map Prod.fst) :
    insert table key value = table ++ [(key, value)] := by
  induction table with
  | nil => rfl
  | cons entry rest ih =>
    obtain ⟨first, held⟩ := entry
    rw [List.map_cons, List.mem_cons, not_or] at fresh
    rw [insert, if_neg (Ne.symm fresh.1), ih fresh.2]
    rfl

/-- Writing the pairs of a table one after the other yields the table. -/
theorem ofPairs_self {table : Table κ α} (distinct : (table.map Prod.fst).Nodup) :
    ofPairs table = table := by
  -- What is written so far grows by the next pair at its end.
  have grown : ∀ start rest : Table κ α, ((start ++ rest).map Prod.fst).Nodup →
      rest.foldl (fun table entry => insert table entry.1 entry.2) start = start ++ rest := by
    intro start rest
    induction rest generalizing start with
    | nil => exact fun _ => (List.append_nil start).symm
    | cons pair rest ih =>
      intro distinct
      have apart : ((start ++ [pair] ++ rest).map Prod.fst).Nodup := by simpa using distinct
      have fresh : pair.1 ∉ start.map Prod.fst := by
        intro held
        rw [List.map_append] at distinct
        exact (List.nodup_append.mp distinct).2.2 _ held _ List.mem_cons_self rfl
      rw [List.foldl_cons, insert_fresh fresh, ih _ apart]
      simp
  exact grown [] table distinct

end Table
end CallTone
