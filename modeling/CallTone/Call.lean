import CallTone.Failure
import CallTone.Text.Quoted

/-!
Incoming calls and what is selected for them: the users and profiles of a device, the context in
which a sound is looked up, the call itself, and the selection of a sound reference together with a
handle that can play it. A selection always has a reference that is not empty.
-/
namespace CallTone

structure UserHandle where
  identifier : Int
deriving DecidableEq, Repr

def UserHandle.text (user : UserHandle) : String :=
  "UserHandle\x7b" ++ toString user.identifier ++ "\x7d"

/-- A package seen as one user: what a sound is looked up in. -/
structure Context where
  packageName : String
  user : UserHandle
deriving DecidableEq, Repr

def Context.userId (context : Context) : Int := context.user.identifier

structure ProfileInfo where
  user : UserHandle
  managed : Bool
  enabled : Bool
  parent : Option Int
deriving DecidableEq, Repr

/-- What is known about who calls. -/
inductive CallerClass where
  | ordinary
  /-- The caller is a contact of a managed profile. -/
  | work
  | unknown
deriving DecidableEq, Repr

namespace CallerClass

def word : CallerClass → String
  | .ordinary => "ordinary"
  | .work => "work"
  | .unknown => "unknown"

/-- All classes, in the order of their words. -/
def all : List CallerClass := [.ordinary, .unknown, .work]

def ofWord? (text : String) : Option CallerClass := all.find? fun caller => caller.word = text

end CallerClass

/-- An incoming call: the ringtone chosen for the caller, what is known about the caller, and the
user that the call is associated with. -/
structure IncomingCall where
  ringtone : Option String
  caller : Option CallerClass
  associatedUser : Option UserHandle
deriving DecidableEq, Repr

namespace IncomingCall

/-- The class of the caller; without caller information it is unknown. -/
def classification (call : IncomingCall) : CallerClass := call.caller.getD .unknown

/-- Whether the caller is known to be a contact of a managed profile. -/
def isWorkContact (call : IncomingCall) : Bool := call.caller == some .work

/-- The call described by words and numbers. -/
def describe (ringtone : Option String) (caller : Option String) (user : Option Int) :
    Except Failure IncomingCall :=
  match caller with
  | none => .ok ⟨ringtone, none, user.map UserHandle.mk⟩
  | some word =>
    match CallerClass.ofWord? word with
    | some caller => .ok ⟨ringtone, some caller, user.map UserHandle.mk⟩
    | none => .error ⟨.missingKey, Text.quoted word⟩

end IncomingCall

/-- A selected sound reference and, when it could be loaded, a handle that plays it. -/
structure Selection (Handle : Type) where
  uri : String
  handle : Option Handle
  uri_ne_empty : uri ≠ ""

namespace Selection

variable {Handle : Type}

/-- The failure about a selection without a reference. -/
def emptyUri : Failure := ⟨.value, "RingtoneSelection requires a sound uri"⟩

def make (uri : String) (handle : Option Handle) : Except Failure (Selection Handle) :=
  if given : uri ≠ "" then .ok ⟨uri, handle, given⟩ else .error emptyUri

def playable (selection : Selection Handle) : Bool := selection.handle.isSome

end Selection
end CallTone
