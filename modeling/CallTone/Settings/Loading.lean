import CallTone.Settings.Validation
import CallTone.Text.Utf8
import CallTone.Yaml.Document

/-!
Loading: the settings in the octets of a file. The octets are decoded as UTF-8 and read as a
document; a document that says nothing, or something empty, stands for settings without any section.
-/
namespace CallTone.Settings

/-- Why a file holds no settings. -/
inductive LoadFault where
  /-- The text is no document. -/
  | notDocument
  /-- The document describes no settings. -/
  | invalid (faults : List Fault)
  /-- Reading broke off with a failure of its own. -/
  | broken (failure : Failure)
deriving DecidableEq, Repr

/-- The text with every line break as a line feed. -/
def plainLineBreaks : List Char → List Char
  | '\r' :: '\n' :: rest => '\n' :: plainLineBreaks rest
  | '\r' :: rest => '\n' :: plainLineBreaks rest
  | c :: rest => c :: plainLineBreaks rest
  | [] => []

/-- How many octets are decoded at a time. -/
def blockSize : Nat := 8192

def blocksOf : List Nat → List (List Nat)
  | [] => []
  | octet :: rest =>
    (octet :: rest.take (blockSize - 1)) :: blocksOf (rest.drop (blockSize - 1))
termination_by octets => octets.length
decreasing_by
  simp only [List.length_drop, List.length_cons]
  omega

def decodeFile (octets : List Nat) : Except Failure (List Char) :=
  match Text.Utf8.decodeBlocks [] (blocksOf octets) with
  | .ok text => .ok (plainLineBreaks text)
  | .error fault => .error ⟨.unicodeDecoding, fault.message⟩

section
variable {τ : Type} [DecidableEq τ] [Spelling τ]

def readDocument (homes : Path.Homes) (value : Value) : Except LoadFault (Settings τ) :=
  match Settings.read homes (if value.isEmpty then .map [] else value) with
  | .valid settings => .ok settings
  | .invalid faults => .error (.invalid faults)
  | .broken failure => .error (.broken failure)

/-- The settings in the octets of a file, with texts of the type asked for. -/
def readFile (homes : Path.Homes) (octets : List Nat) : Except LoadFault (Settings τ) :=
  match decodeFile octets with
  | .error failure => .error (.broken failure)
  | .ok text =>
    match Yaml.read text with
    | .error .malformed => .error .notDocument
    | .error (.broken failure) => .error (.broken failure)
    | .ok value => readDocument homes value

end

/-- What stands in place of settings with texts that are no strings: nothing here is said about
them. -/
def unanswered : Failure := ⟨.other "Unanswered", "settings with texts that are no strings"⟩

/-- The settings of strings in the octets of a file. A file may hold any texts, so it is checked with
texts in general, and narrowed then. -/
def load (homes : Path.Homes) (octets : List Nat) : Except LoadFault Settings :=
  match (readFile homes octets : Except LoadFault (Settings Text)) with
  | .error fault => .error fault
  | .ok _ =>
    match readFile homes octets with
    | .ok settings => .ok settings
    | .error _ => .error (.broken unanswered)

end CallTone.Settings
