import CallTone.Text.Letter
import CallTone.Text.Pieces

/-!
Paths of the file system. A path is its root and its components: reading one from a text drops empty
and `.` components, keeps `..`, and keeps exactly two leading slashes apart from one. A path without
components and root is written `.`. Paths are made of strings or of texts in general, and both are
read and written in the same way. Expanding the home directory changes only a relative path whose
first component starts with `~`; which homes there are is told from outside.
-/
namespace CallTone

/-- What a path starts from. -/
inductive Path.Root where
  | none
  | one
  | two
deriving DecidableEq, Repr

/-- A path: a root and components that are neither empty nor `.` and hold no slash. -/
structure Path (τ : Type := String) where
  root : Path.Root
  components : List τ
deriving DecidableEq, Repr

namespace Path

section
variable {α : Type} [DecidableEq α] (slash dot : α)

def rootOf (letters : List α) : Root :=
  match (letters.takeWhile (· = slash)).length with
  | 0 => .none
  | 2 => .two
  | _ => .one

/-- The pieces between slashes that become components. -/
def solidPieces (letters : List α) : List (List α) :=
  (Text.splitOn slash letters).filter fun piece => piece ≠ [] ∧ piece ≠ [dot]

def Root.letters : Root → List α
  | .none => []
  | .one => [slash]
  | .two => [slash, slash]

def joinPieces : List (List α) → List α
  | [] => []
  | [only] => only
  | first :: rest => first ++ slash :: joinPieces rest

/-- The letters of a path. -/
def write (root : Root) (pieces : List (List α)) : List α :=
  match root, pieces with
  | .none, [] => [dot]
  | root, pieces => root.letters slash ++ joinPieces slash pieces

end

/-! ### Paths of strings -/

def ofChars (cs : List Char) : Path := ⟨rootOf '/' cs, (solidPieces '/' '.' cs).map String.ofList⟩

def ofString (s : String) : Path := ofChars s.toList

def toChars (p : Path) : List Char := write '/' '.' p.root (p.components.map String.toList)

def toString (p : Path) : String := String.ofList p.toChars

instance : ToString Path := ⟨Path.toString⟩

/-! ### Paths of texts -/

def ofText (text : Text) : Path Text :=
  ⟨rootOf (.char '/') text.letters,
    (solidPieces (.char '/') (.char '.') text.letters).map Text.mk⟩

def toText (p : Path Text) : Text :=
  ⟨write (.char '/') (.char '.') p.root (p.components.map Text.letters)⟩

section
variable {τ : Type} [Spelling τ]

/-- The path with its components as texts in general. -/
def wide (p : Path τ) : Path Text := ⟨p.root, p.components.map Spelling.text⟩

/-- The path with its components as texts of a type, when all can be. -/
def ofWide? (p : Path Text) : Option (Path τ) :=
  (p.components.mapM Spelling.ofText?).map fun components => ⟨p.root, components⟩

theorem mapM_ofText?_eq_some {written : List Text} {components : List τ} :
    written.mapM Spelling.ofText? = some components ↔ components.map Spelling.text = written := by
  induction written generalizing components with
  | nil => cases components <;> simp
  | cons first rest ih =>
    rw [List.mapM_cons]
    cases components with
    | nil => simp [Option.bind_eq_some_iff]
    | cons component more =>
      simp [Option.bind_eq_some_iff, Spelling.ofText?_eq_some, ih]

/-- A path has its components as texts of a type exactly when it is the wide form of one. -/
theorem ofWide?_eq_some {p : Path Text} {q : Path τ} : p.ofWide? = some q ↔ q.wide = p := by
  obtain ⟨root, written⟩ := p
  obtain ⟨other, components⟩ := q
  simp only [ofWide?, wide, Option.map_eq_some_iff, mapM_ofText?_eq_some, Path.mk.injEq]
  constructor
  · rintro ⟨components, same, rfl, rfl⟩
    exact ⟨rfl, same⟩
  · rintro ⟨rfl, same⟩
    exact ⟨components, same, rfl, rfl⟩

end

/-! ### Homes -/

/-- The home directories that there are, by the names of users; without a name it is the program's
own. -/
structure Homes where
  home? : Text → Option Text

/-- A home of the program's own, and no other. -/
instance : Coe String Homes :=
  ⟨fun own => ⟨fun name => if name.letters.isEmpty then some own else none⟩⟩

/-- Why a home directory cannot be put in place of `~`. -/
inductive HomeFault where
  /-- No home directory is known for the name. -/
  | unknown
  /-- The name holds a NUL and cannot be looked up. -/
  | nulInName
  /-- The name holds halves that stand for no octets and cannot be looked up. -/
  | strayInName (stray : Text.Stray)
deriving DecidableEq, Repr

def HomeFault.message : HomeFault → String
  | .unknown => "Could not determine home directory."
  | .nulInName => "embedded null byte"
  | .strayInName stray => stray.message

/-- Whether a half stands for an octet above the first 128, as names of users may hold them. -/
def isOctet (place : Fin 0x800) : Bool := 0x480 ≤ place.val && place.val < 0x500

def Homes.find (homes : Homes) (name : List Letter) : Except HomeFault Text :=
  match Text.strayFrom isOctet 0 name with
  | some stray => .error (.strayInName stray)
  | none =>
    if name.contains (.char '\x00') then .error .nulInName
    else
      match homes.home? ⟨name⟩ with
      | some home => .ok home
      | none => .error .unknown

/-- The home directory as it is put before a path: without slashes at its end. -/
def homeText (home : Text) : Text :=
  let body := (home.letters.reverse.dropWhile (· = .char '/')).reverse
  if body.isEmpty then "/" else ⟨body⟩

/-- The path with a first component that starts with `~` replaced by the home directory. -/
def expandHome (homes : Homes) (p : Path Text) : Except HomeFault (Path Text) :=
  match p.root, p.components with
  | .none, first :: rest =>
    match first.letters with
    | .char '~' :: name =>
      match homes.find name with
      | .error fault => .error fault
      | .ok home =>
        let directory := homeText home
        if directory.letters.head? = some (.char '~') then .error .unknown
        else
          let base := ofText directory
          .ok ⟨base.root, base.components ++ rest⟩
    | _ => .ok p
  | _, _ => .ok p

end Path
end CallTone
