import CallTone.Failure

/-!
Checked values: what checking a raw value comes to. It is valid and yields a value, or it is invalid
and yields every fault found, each with its place, or the check itself broke off with a failure.
Checking goes on after a fault, so that all faults are found, but not after a failure: of two checks
one after the other, the first failure decides.
-/
namespace CallTone.Settings

/-- A step on the way to a fault: a field or text key, a position, or the key of an entry itself. -/
inductive Step where
  | name (text : String)
  | index (n : Int)
  | key
deriving DecidableEq, Repr

inductive Fault.Kind where
  /-- Not a section of named fields. -/
  | notSection
  | notList
  | notMap
  | notText
  /-- A text that is not made of characters. -/
  | brokenText
  | notWhole
  /-- A text that denotes no whole number. -/
  | wholeUnreadable
  /-- A text with more digits than are read. -/
  | wholeTooLong
  /-- A number with a fraction, or too large to be read as a whole one. -/
  | wholeFromReal
  | notFinite
  | notTruth
  /-- A text or number that denotes no truth value. -/
  | truthUnreadable
  /-- A field that has to be given is not. -/
  | missing
  /-- A rule of the settings is broken. -/
  | rule (message : String)
deriving DecidableEq, Repr

/-- The code by which a kind of fault is reported. -/
def Fault.Kind.code : Fault.Kind → String
  | .notSection => "model_type"
  | .notList => "list_type"
  | .notMap => "dict_type"
  | .notText => "string_type"
  | .brokenText => "string_unicode"
  | .notWhole => "int_type"
  | .wholeUnreadable => "int_parsing"
  | .wholeTooLong => "int_parsing_size"
  | .wholeFromReal => "int_from_float"
  | .notFinite => "finite_number"
  | .notTruth => "bool_type"
  | .truthUnreadable => "bool_parsing"
  | .missing => "missing"
  | .rule _ => "value_error"

structure Fault where
  place : List Step
  kind : Fault.Kind
deriving DecidableEq, Repr

/-- What checking a raw value comes to. -/
inductive Checked (α : Type) where
  | valid (value : α)
  | invalid (faults : List Fault)
  | broken (failure : Failure)

namespace Checked

variable {α β γ : Type}

def fault (kind : Fault.Kind) : Checked α := .invalid [⟨[], kind⟩]

/-- A value changed where it is valid. -/
def map (f : α → β) : Checked α → Checked β
  | .valid a => .valid (f a)
  | .invalid faults => .invalid faults
  | .broken failure => .broken failure

/-- A further check of a valid value. -/
def andThen (first : Checked α) (next : α → Checked β) : Checked β :=
  match first with
  | .valid a => next a
  | .invalid faults => .invalid faults
  | .broken failure => .broken failure

/-- Two checks one after the other; the second is made also after faults of the first. -/
def both (first : Checked α) (second : Checked β) : Checked (α × β) :=
  match first, second with
  | .broken failure, _ => .broken failure
  | _, .broken failure => .broken failure
  | .valid a, .valid b => .valid (a, b)
  | .valid _, .invalid faults => .invalid faults
  | .invalid faults, .valid _ => .invalid faults
  | .invalid faults, .invalid more => .invalid (faults ++ more)

/-- A function and its argument checked one after the other. -/
def apply (first : Checked (α → β)) (second : Checked α) : Checked β :=
  (both first second).map fun pair => pair.1 pair.2

/-- The faults seen from one step further out. -/
def under (step : Step) : Checked α → Checked α
  | .invalid faults => .invalid (faults.map fun fault => { fault with place := step :: fault.place })
  | other => other

/-- The items of a list checked in order. -/
def all (check : α → Checked β) : List α → Checked (List β)
  | [] => .valid []
  | a :: rest => (both (check a) (all check rest)).map fun pair => pair.1 :: pair.2

/-- The items of a list checked in order, each at its position. -/
def allFrom (check : α → Checked β) (position : Nat) : List α → Checked (List β)
  | [] => .valid []
  | a :: rest =>
    (both ((check a).under (.index position)) (allFrom check (position + 1) rest)).map
      fun pair => pair.1 :: pair.2

@[simp] theorem both_valid (a : α) (b : β) : both (.valid a) (.valid b) = .valid (a, b) := rfl

@[simp] theorem map_valid (f : α → β) (a : α) : map f (.valid a) = .valid (f a) := rfl

end Checked
end CallTone.Settings
