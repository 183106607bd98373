import CallTone.Failure

/-!
What the program tells about itself under a name: its version, and which names there are.
-/
namespace CallTone.About

def version : String := "0.1.0"

def names : List String := ["__version__"]

/-- Something that the program tells about itself. -/
inductive Fact where
  | text (value : String)
  | texts (values : List String)
deriving DecidableEq, Repr

/-- What the program tells under a name. -/
def fact (name : String) : Except Failure Fact :=
  if name = "__version__" then .ok (.text version)
  else if name = "__all__" then .ok (.texts names)
  else .error ⟨.attribute, name⟩

end CallTone.About
