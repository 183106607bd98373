import CallTone.Failure

/-!
The thread guard. Loading a sound blocks, so it is refused on the dispatch thread. A guard is fixed
when it is made: whether it is enabled, and which thread is the dispatch thread. Threads are told
apart by their serial number, not by their name.
-/
namespace CallTone

structure Thread where
  serial : Nat
  name : String
deriving DecidableEq, Repr

def Thread.main : Thread := ⟨0, "MainThread"⟩

/-- A thread guard; without a dispatch thread of its own it guards the main thread. -/
structure Guard where
  enabled : Bool
  dispatch : Option Thread
deriving DecidableEq, Repr

namespace Guard

/-- An enabled or disabled guard of the main thread. -/
def ofMain (enabled : Bool) : Guard := ⟨enabled, none⟩

/-- The thread that is guarded. -/
def dispatchThread (guard : Guard) : Thread := guard.dispatch.getD Thread.main

def isDispatch (guard : Guard) (thread : Thread) : Bool := thread.serial == guard.dispatchThread.serial

/-- The failure of an operation on the guarded thread. -/
def refusal (guard : Guard) (operation : String) : Failure :=
  ⟨.wrongThread, operation ++ " must not be called on the dispatch thread (" ++
    guard.dispatchThread.name ++ ")"⟩

/-- Refuses an operation on the guarded thread while the guard is enabled. -/
def check (guard : Guard) (operation : String) (thread : Thread) : Except Failure Unit :=
  if guard.enabled && guard.isDispatch thread then .error (guard.refusal operation) else .ok ()

end Guard
end CallTone
