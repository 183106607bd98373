import CallTone.Proofs.ReadFields

/-! What raw sections describe when each field has its declared type and no path asks
for a home that is not known. Reading such a section finds what it describes; the only
faults left are those of sound settings that there are none of. -/
namespace CallTone.DescribedDevices
open Settings ReadFields

variable {τ : Type} [DecidableEq τ] [Spelling τ]

/-! Declared types -/

/-- What a check comes to that finds a value and faults in it. -/
def settle (value : α) : List Fault → Checked α
  | [] => .valid value
  | fault :: rest => .invalid (fault :: rest)

/-- Faults seen from one step further out. -/
def placed (step : Step) (faults : List Fault) : List Fault :=
  faults.map fun fault => { fault with place := step :: fault.place }

@[simp] theorem placed_nil (step : Step) : placed step [] = [] := rfl

/-- A reader that finds what a raw value describes. -/
def Reads (is : Value → α → Prop) (read : Value → Checked α) : Prop :=
  ∀ raw value, is raw value → read raw = .valid value

end CallTone.DescribedDevices
