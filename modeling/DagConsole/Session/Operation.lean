import DagConsole.Platform.Request
import DagConsole.Store.Basic

/-! Operations of a session: steps on the store, and requests to the platform between them. -/
namespace DagConsole

/-- An operation that ends with a value.

Each step on the store is atomic, and while an answer is awaited other operations may take theirs. -/
inductive Operation (α : Type) where
  | done (value : α)
  /-- Changes the store, and goes on with what the store was before. -/
  | act (change : Store → Store) (next : Store → Operation α)
  | ask (request : Request) (next : request.Answer → Operation α)
  /-- Asks for all results at once, writes each answer as it comes, and goes on with the number of
  answers that were not stale. -/
  | fetchAll (fetches : List NodeFetch) (next : Nat → Operation α)

namespace Operation

variable {α β : Type}

def bind : Operation α → (α → Operation β) → Operation β
  | .done value, k => k value
  | .act change next, k => .act change fun s => (next s).bind k
  | .ask request next, k => .ask request fun answer => (next answer).bind k
  | .fetchAll fetches next, k => .fetchAll fetches fun count => (next count).bind k

instance : Monad Operation where
  pure := .done
  bind := bind

/-- A step on the store with a result. -/
def access (step : Store → α × Store) : Operation α :=
  .act (fun s => (step s).2) fun s => .done (step s).1

def request (request : Request) : Operation request.Answer := .ask request .done

end Operation

/-- An operation that may fail; what it did before it failed stays done. -/
abbrev Action (α : Type) := ExceptT Error Operation α

namespace Action

variable {α : Type}

def access (step : Store → α × Store) : Action α := ExceptT.lift (Operation.access step)

/-- A step on the store that may fail. -/
def attempt (step : Store → Outcome α × Store) : Action α := ExceptT.mk (Operation.access step)

/-- The answer to a request, which may be a failure. -/
def answer (request : Request) : Action request.Answer := ExceptT.lift (Operation.request request)

/-- The response to a request; a failure ends the action. -/
def ask (request : Request) : Action request.Response := ExceptT.mk (Operation.request request)

end Action

/-- An answer to a node fetch, with the fetch it is for. -/
inductive Reply where
  | artifact (ticket : Ticket) (id : ArtifactId) (answer : Outcome ArtifactResult)
  | operator (ticket : Ticket) (id : OperatorId) (answer : Outcome OperatorResult)

namespace Store

def applyReply (s : Store) : Reply → Bool × Store
  | .artifact ticket id answer => s.applyArtifactResult ticket id answer
  | .operator ticket id answer => s.applyOperatorResult ticket id answer

/-- Writes replies one after the other, and counts those that were not stale. -/
def applyReplies (s : Store) : List Reply → Nat × Store
  | [] => (0, s)
  | reply :: rest =>
    let (accepted, s) := s.applyReply reply
    let (count, s) := s.applyReplies rest
    (count + accepted.toNat, s)

end Store

namespace Platform

variable {σ : Type}

def reply (p : Platform σ) (x : σ) : NodeFetch → Reply × σ
  | .artifact ticket id =>
    let (answer, x) := p.answer (.getArtifactResult ticket.run id) x
    (.artifact ticket id answer, x)
  | .operator ticket id =>
    let (answer, x) := p.answer (.getOperatorResult ticket.run id) x
    (.operator ticket id answer, x)

/-- The replies to fetches, asked for in order. -/
def replies (p : Platform σ) (x : σ) : List NodeFetch → List Reply × σ
  | [] => ([], x)
  | fetch :: rest =>
    let (reply, x) := p.reply x fetch
    let (replies, x) := p.replies x rest
    (reply :: replies, x)

end Platform

/-- Runs an operation alone, with every answer there at once. -/
def Operation.run {α σ : Type} (p : Platform σ) : Operation α → Store → σ → α × Store × σ
  | .done value, s, x => (value, s, x)
  | .act change next, s, x => (next s).run p (change s) x
  | .ask request next, s, x =>
    let (answer, x) := p.answer request x
    (next answer).run p s x
  | .fetchAll fetches next, s, x =>
    let (replies, x) := p.replies x fetches
    let (count, s) := s.applyReplies replies
    (next count).run p s x

end DagConsole
