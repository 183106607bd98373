import CallTone.Notice
import CallTone.Resolver.Request

/-!
Dialogues: programs that ask requests one after the other, write notices, and finish with a value or
a failure. What a dialogue does next depends only on the replies, so it can be held with any parts
around it: replies may change from one request to the next, and any request may fail. Holding a
dialogue yields its result and the events in their order.
-/
namespace CallTone

/-- A program that asks requests. -/
inductive Dialogue (Handle : Type) (α : Type) where
  | finish (result : Except Failure α)
  | note (notice : Notice) (rest : Dialogue Handle α)
  | ask (request : Request Handle) (next : Except Failure request.Reply → Dialogue Handle α)

namespace Dialogue

variable {Handle α β σ : Type}

/-- Goes on with the value that a dialogue finishes with. A failure ends both. -/
def andThen (dialogue : Dialogue Handle α) (next : α → Dialogue Handle β) : Dialogue Handle β :=
  match dialogue with
  | .finish (.ok a) => next a
  | .finish (.error failure) => .finish (.error failure)
  | .note notice rest => .note notice (rest.andThen next)
  | .ask request reply => .ask request fun answer => (reply answer).andThen next

instance : Monad (Dialogue Handle) where
  pure a := .finish (.ok a)
  bind := andThen

/-- Asks a request whose failure is the dialogue's own. -/
def request (r : Request Handle) : Dialogue Handle r.Reply := .ask r .finish

/-- Asks a request and looks at its failure. -/
def attempt (r : Request Handle) : Dialogue Handle (Except Failure r.Reply) :=
  .ask r fun reply => .finish (.ok reply)

def tell (notice : Notice) : Dialogue Handle Unit := .note notice (.finish (.ok ()))

inductive Event (Handle : Type) where
  /-- A request was asked and answered; the answering part may have written notices. -/
  | asked (request : Request Handle) (reply : Except Failure request.Reply) (remarks : List Notice)
  /-- The dialogue wrote a notice. -/
  | noted (notice : Notice)

def Event.notices : Event Handle → List Notice
  | .asked _ _ remarks => remarks
  | .noted notice => [notice]

/-- What a part answers: a reply, notices of its own, and the state it is left in. -/
structure Answer (σ : Type) (Reply : Type) where
  reply : Except Failure Reply
  remarks : List Notice
  state : σ

/-- The parts around the resolver: how they answer each request in each state. -/
abbrev Collaborators (Handle σ : Type) := σ → (r : Request Handle) → Answer σ r.Reply

/-- What holding a dialogue comes to. -/
structure Outcome (Handle σ α : Type) where
  result : Except Failure α
  events : List (Event Handle)
  state : σ

/-- Holds a dialogue with the parts around it. -/
def hold (parts : Collaborators Handle σ) (state : σ) : Dialogue Handle α → Outcome Handle σ α
  | .finish result => ⟨result, [], state⟩
  | .note notice rest =>
    let after := rest.hold parts state
    { after with events := .noted notice :: after.events }
  | .ask request next =>
    let answer := parts state request
    let after := (next answer.reply).hold parts answer.state
    { after with events := .asked request answer.reply answer.remarks :: after.events }

def Outcome.notices (outcome : Outcome Handle σ α) : List Notice :=
  outcome.events.flatMap Event.notices

end Dialogue
end CallTone
