import CallTone.Binary64

/-!
JSON values. Numbers written without a point or an exponent are integers, all others binary
numbers; the members of an object keep their order.
-/
namespace CallTone

inductive Json where
  | null
  | bool (value : Bool)
  | int (value : Int)
  | real (value : Binary64)
  | str (value : String)
  | arr (items : List Json)
  | obj (members : List (String × Json))

namespace Json

instance : Inhabited Json := ⟨.null⟩

def member? (name : String) : Json → Option Json
  | .obj members => members.lookup name
  | _ => none

/-- The value, or null when there is none. -/
def ofOption {α : Type} (write : α → Json) : Option α → Json
  | none => .null
  | some a => write a

end Json
end CallTone
