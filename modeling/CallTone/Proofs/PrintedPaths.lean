import CallTone.Path
import Mathlib.Data.List.TakeWhile

/-! Printed paths. A path is printed with one slash between two components, so that
reading the print finds the components and the root that it was printed from. A path
that was put under a home directory starts where the home does, at a root, and is not
put under one again. Paths of strings are read and printed as those of texts are. -/
namespace CallTone.PrintedPaths
open CallTone.Path

/-! Pieces between slashes -/

section
variable {α : Type} [DecidableEq α] {slash dot : α}

/-- Letters that stand for a component between two slashes. -/
structure Component (slash dot : α) (piece : List α) : Prop where
  nonempty : piece ≠ []
  moves : piece ≠ [dot]
  whole : slash ∉ piece

theorem split_whole {piece : List α} (whole : slash ∉ piece) :
    Text.splitOn slash piece = [piece] := by
  induction piece with
  | nil => rfl
  | cons letter rest ih =>
    have other : letter ≠ slash := fun same => whole (same ▸ List.mem_cons_self)
    have later : slash ∉ rest := fun member => whole (List.mem_cons_of_mem letter member)
    rw [Text.splitOn, if_neg other, ih later]

theorem split_at_slash {piece : List α} (whole : slash ∉ piece) (rest : List α) :
    Text.splitOn slash (piece ++ slash :: rest) = piece :: Text.splitOn slash rest := by
  induction piece with
  | nil => rw [List.nil_append, Text.splitOn, if_pos rfl]
  | cons letter more ih =>
    have other : letter ≠ slash := fun same => whole (same ▸ List.mem_cons_self)
    have later : slash ∉ more := fun member => whole (List.mem_cons_of_mem letter member)
    rw [List.cons_append, Text.splitOn, if_neg other, ih later]

theorem split_pieces_whole (letters : List α) :
    ∀ piece ∈ Text.splitOn slash letters, slash ∉ piece := by
  induction letters with
  | nil => simp [Text.splitOn]
  | cons letter rest ih =>
    by_cases same : letter = slash
    · rw [Text.splitOn, if_pos same]
      exact List.forall_mem_cons.mpr ⟨List.not_mem_nil, ih⟩
    · rw [Text.splitOn, if_neg same]
      cases pieces : Text.splitOn slash rest with
      | nil => simpa using Ne.symm same
      | cons piece more =>
        rw [pieces] at ih
        obtain ⟨first, others⟩ := List.forall_mem_cons.mp ih
        refine List.forall_mem_cons.mpr ⟨?_, others⟩
        exact List.not_mem_cons_of_ne_of_not_mem (Ne.symm same) first

/-- Whatever is read, its pieces are such that a print of them can be read. -/
theorem solid_pieces_normal (letters : List α) :
    ∀ piece ∈ solidPieces slash dot letters, Component slash dot piece := by
  intro piece kept
  obtain ⟨found, solid⟩ := List.mem_filter.mp kept
  have solid : piece ≠ [] ∧ piece ≠ [dot] := of_decide_eq_true solid
  exact ⟨solid.1, solid.2, split_pieces_whole letters piece found⟩

theorem pieces_of_slash (letters : List α) :
    solidPieces slash dot (slash :: letters) = solidPieces slash dot letters := by
  simp [solidPieces, Text.splitOn]

theorem pieces_of_one {piece : List α} (plain : Component slash dot piece) :
    solidPieces slash dot piece = [piece] := by
  simp [solidPieces, split_whole plain.whole, plain.nonempty, plain.moves]

theorem pieces_of_more {piece : List α} (plain : Component slash dot piece) (rest : List α) :
    solidPieces slash dot (piece ++ slash :: rest) = piece :: solidPieces slash dot rest := by
  simp [solidPieces, split_at_slash plain.whole, plain.nonempty, plain.moves]

theorem pieces_of_join {pieces : List (List α)}
    (normal : ∀ piece ∈ pieces, Component slash dot piece) :
    solidPieces slash dot (joinPieces slash pieces) = pieces := by
  induction pieces with
  | nil => rfl
  | cons first rest ih =>
    obtain ⟨start, others⟩ := List.forall_mem_cons.mp normal
    cases rest with
    | nil => exact pieces_of_one start
    | cons second more =>
      rw [joinPieces, pieces_of_more start, ih others]
      exact List.cons_ne_nil second more

theorem pieces_of_root (root : Root) (letters : List α) :
    solidPieces slash dot (root.letters slash ++ letters) = solidPieces slash dot letters := by
  cases root with
  | none => rfl
  | one => exact pieces_of_slash letters
  | two => exact (pieces_of_slash _).trans (pieces_of_slash letters)

/-! Roots -/

omit [DecidableEq α] in
theorem join_start {pieces : List (List α)}
    (normal : ∀ piece ∈ pieces, Component slash dot piece) :
    (joinPieces slash pieces).head? ≠ some slash := by
  cases pieces with
  | nil => nofun
  | cons first rest =>
    have start := normal first List.mem_cons_self
    have head : (joinPieces slash (first :: rest)).head? = first.head? := by
      cases rest with
      | nil => rfl
      | cons second more =>
        obtain ⟨letter, after, whole⟩ := List.exists_cons_of_ne_nil start.nonempty
        rw [joinPieces, whole]
        · rfl
        · exact List.cons_ne_nil second more
    rw [head]
    exact fun same => start.whole (List.mem_of_mem_head? same)

theorem root_of_printed (root : Root) {letters : List α} (start : letters.head? ≠ some slash) :
    rootOf slash (root.letters slash ++ letters) = root := by
  have none_more : letters.takeWhile (· = slash) = [] := by
    cases letters with
    | nil => rfl
    | cons letter rest => simpa using start
  cases root <;> simp [Root.letters, rootOf, none_more]

/-- Reading what is written of a root and pieces finds them. -/
theorem pieces_of_write (distinct : dot ≠ slash) (root : Root) {pieces : List (List α)}
    (normal : ∀ piece ∈ pieces, Component slash dot piece) :
    rootOf slash (write slash dot root pieces) = root ∧
      solidPieces slash dot (write slash dot root pieces) = pieces := by
  have printed : rootOf slash (root.letters slash ++ joinPieces slash pieces) = root ∧
      solidPieces slash dot (root.letters slash ++ joinPieces slash pieces) = pieces :=
    ⟨root_of_printed root (join_start normal), (pieces_of_root root _).trans (pieces_of_join normal)⟩
  cases root with
  | none =>
    cases pieces with
    | nil => simp [write, rootOf, solidPieces, Text.splitOn, distinct]
    | cons first rest => exact printed
  | one => exact printed
  | two => exact printed

theorem rooted_of_slash {letters : List α} (start : letters.head? = some slash) :
    rootOf slash letters ≠ .none := by
  obtain ⟨rest, rfl⟩ := List.head?_eq_some_iff.mp start
  unfold rootOf
  split
  next zero => simp at zero
  next => nofun
  next => nofun

end

/-! Paths of texts -/

/-- A path of components that reading does not drop or take apart. -/
def Normal (path : Path Text) : Prop :=
  ∀ component ∈ path.components, Component (.char '/') (.char '.') component.letters

theorem read_normal (text : Text) : Normal (ofText text) := by
  intro component member
  obtain ⟨piece, kept, rfl⟩ := List.mem_map.mp member
  exact solid_pieces_normal text.letters piece kept

/-- Reading the print of a path finds the path. -/
theorem read_print {path : Path Text} (normal : Normal path) : ofText path.toText = path := by
  obtain ⟨root, components⟩ := path
  have written : Text.mk ∘ Text.letters = id := rfl
  have distinct : Letter.char '.' ≠ .char '/' := by decide
  obtain ⟨rooted, pieces⟩ := pieces_of_write distinct root (List.forall_mem_map.mpr normal)
  rw [ofText, toText, rooted, pieces, List.map_map, written, List.map_id]

/-! Homes -/

/-- Every home is given from the root. -/
def Rooted (homes : Homes) : Prop :=
  ∀ name, ∀ home ∈ homes.home? name, home.letters.head? = some (.char '/')

theorem found_known {homes : Homes} (found : homes.find name = .ok home) :
    homes.home? ⟨name⟩ = some home := by
  unfold Homes.find at found
  split at found
  next => cases found
  next =>
    split at found
    next => cases found
    next =>
      split at found
      next known =>
        cases found
        exact known
      next => cases found

/-- A home starts as it is given, whatever slashes it loses at its end. -/
theorem home_text_head {home : Text} (given : home.letters ≠ []) :
    (homeText home).letters.head? = home.letters.head? := by
  have start : (home.letters.reverse.dropWhile (· = .char '/')).reverse <+: home.letters := by
    rw [← List.reverse_suffix, List.reverse_reverse]
    exact List.dropWhile_suffix _
  unfold homeText
  generalize body : (home.letters.reverse.dropWhile (· = .char '/')).reverse = kept at start
  cases kept with
  | nil =>
    have slashes : ∀ letter ∈ home.letters, letter = .char '/' := by
      simpa using List.dropWhile_eq_nil_iff.mp (List.reverse_eq_nil_iff.mp body)
    obtain ⟨first, rest, whole⟩ := List.exists_cons_of_ne_nil given
    have slash : first = .char '/' := slashes first (whole ▸ List.mem_cons_self)
    rw [whole, slash]
    rfl
  | cons first rest =>
    obtain ⟨dropped, whole⟩ := start
    rw [← whole]
    simp

/-- What starts at a root is not put under a home. -/
theorem rooted_unexpanded {path : Path Text} (rooted : path.root ≠ .none) (homes : Homes) :
    path.expandHome homes = .ok path := by
  obtain ⟨root, components⟩ := path
  cases root with
  | none => exact absurd rfl rooted
  | one => rfl
  | two => rfl

/-- A path that asks for no home stays; another one goes on from the home with what
follows its first component. -/
theorem expand_cases {path found : Path Text} (expanded : path.expandHome homes = .ok found) :
    found = path ∨ ∃ name home rest, homes.find name = .ok home ∧
      (∀ component ∈ rest, component ∈ path.components) ∧
      found = ⟨(ofText (homeText home)).root, (ofText (homeText home)).components ++ rest⟩ := by
  unfold expandHome at expanded
  split at expanded
  next first rest rootless split =>
    split at expanded
    next name tilde =>
      split at expanded
      next => cases expanded
      next home known =>
        dsimp only at expanded
        split at expanded
        next => cases expanded
        next =>
          cases expanded
          refine .inr ⟨name, home, rest, known, fun component member => ?_, rfl⟩
          rw [split]
          exact List.mem_cons_of_mem first member
    next =>
      cases expanded
      exact .inl rfl
  next =>
    cases expanded
    exact .inl rfl

theorem expanded_normal {path found : Path Text} (normal : Normal path)
    (expanded : path.expandHome homes = .ok found) : Normal found := by
  rcases expand_cases expanded with rfl | ⟨name, home, rest, -, within, rfl⟩
  · exact normal
  · intro component member
    rcases List.mem_append.mp member with above | below
    · exact read_normal (homeText home) component above
    · exact normal component (within component below)

/-- Under homes that start at a root nothing is expanded twice. -/
theorem expanded_once (rooted : Rooted homes) {path found : Path Text}
    (expanded : path.expandHome homes = .ok found) : found.expandHome homes = .ok found := by
  rcases expand_cases expanded with rfl | ⟨name, home, rest, known, -, rfl⟩
  · exact expanded
  · have absolute := rooted _ home (found_known known)
    have given : home.letters ≠ [] := by
      intro empty
      rw [empty] at absolute
      cases absolute
    refine rooted_unexpanded (rooted_of_slash ?_) homes
    exact (home_text_head given).trans absolute

/-- The path that a text leads to is read again from its print. -/
theorem read_print_expanded (known : (ofText text).expandHome homes = .ok path) :
    ofText path.toText = path :=
  read_print (expanded_normal (read_normal text) known)

/-! Strings among texts -/

section
variable {α β : Type} (spell : α → β) (slash dot : α)

theorem join_map (pieces : List (List α)) :
    joinPieces (spell slash) (pieces.map (List.map spell)) = (joinPieces slash pieces).map spell := by
  induction pieces with
  | nil => rfl
  | cons first rest ih =>
    cases rest with
    | nil => rfl
    | cons second more => simpa [joinPieces] using ih

theorem write_map (root : Root) (pieces : List (List α)) :
    write (spell slash) (spell dot) root (pieces.map (List.map spell)) =
      (write slash dot root pieces).map spell := by
  have joined := join_map spell slash pieces
  cases root with
  | none =>
    cases pieces with
    | nil => rfl
    | cons first rest => exact joined
  | one => exact congrArg (spell slash :: ·) joined
  | two => exact congrArg (spell slash :: spell slash :: ·) joined

end

section
variable {α β : Type} [DecidableEq α] [DecidableEq β] {spell : α → β}
  (distinct : Function.Injective spell) (slash dot : α) (letters : List α)
include distinct

theorem split_map :
    Text.splitOn (spell slash) (letters.map spell) =
      (Text.splitOn slash letters).map (List.map spell) := by
  induction letters with
  | nil => rfl
  | cons letter rest ih =>
    rw [List.map_cons, Text.splitOn, Text.splitOn, ih]
    by_cases same : letter = slash
    · rw [if_pos same, if_pos (congrArg spell same)]
      rfl
    · rw [if_neg same, if_neg (distinct.ne same)]
      cases Text.splitOn slash rest <;> rfl

theorem pieces_map :
    solidPieces (spell slash) (spell dot) (letters.map spell) =
      (solidPieces slash dot letters).map (List.map spell) := by
  rw [solidPieces, split_map distinct, List.filter_map, solidPieces]
  congr 1
  refine List.filter_congr fun piece _ => ?_
  have dotted : piece.map spell = [dot].map spell ↔ piece = [dot] :=
    List.map_inj_right fun _ _ same => distinct same
  rw [List.map_singleton] at dotted
  simp [dotted]

theorem root_map : rootOf (spell slash) (letters.map spell) = rootOf slash letters := by
  have same : ∀ letter, decide (spell letter = spell slash) = decide (letter = slash) :=
    fun letter => by simp [distinct.eq_iff]
  rw [rootOf, List.takeWhile_map, List.length_map, rootOf]
  simp only [Function.comp_def, same]

end

theorem char_injective : Function.Injective Letter.char := fun _ _ => Letter.char.inj

/-- A string is read as the path that it is read as among texts in general. -/
theorem wide_ofString (s : String) : (Path.ofString s).wide = ofText s := by
  have root : rootOf (.char '/') (s.toList.map Letter.char) = rootOf '/' s.toList :=
    root_map char_injective '/' s.toList
  have pieces := pieces_map char_injective '/' '.' s.toList
  simp only [Path.ofString, ofChars, wide, ofText, Text.ofString, Text.ofChars, root, pieces,
    List.map_map]
  congr 1
  refine List.map_congr_left fun piece _ => ?_
  simp [Spelling.text, Text.ofString, Text.ofChars]

/-- A path of strings is written as it is among texts in general. -/
theorem toText_wide (p : Path) : p.wide.toText = Text.ofString p.toString := by
  have written := write_map Letter.char '/' '.' p.root (p.components.map String.toList)
  rw [List.map_map] at written
  simp only [toText, wide, List.map_map]
  rw [Path.toString, Text.ofString, String.toList_ofList, toChars, Text.ofChars, ← written]
  rfl

/-- Reading the print of a path of strings finds the path when it does among texts. -/
theorem string_read_print {path : Path} (printed : ofText path.wide.toText = path.wide) :
    Path.ofString path.toString = path := by
  have wide : (Path.ofString path.toString).wide = path.wide := by
    rw [wide_ofString, ← toText_wide, printed]
  exact Option.some.inj ((ofWide?_eq_some.mpr wide).symm.trans (ofWide?_eq_some.mpr rfl))

end CallTone.PrintedPaths
