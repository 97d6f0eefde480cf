import DagConsole.Enumerated

/-! What can go wrong, by kind, with an optional message and an optional cause. -/
namespace DagConsole

inductive ErrorKind where
  | invalidInput
  | networkError
  | authentication
  | notFound
  | timeout
  | serialization
  | apiError
  | invalidDag
  | pendingResult
  | internalError
  | unknown
deriving DecidableEq, Inhabited

namespace ErrorKind

instance : Enumerated ErrorKind where
  members := [.invalidInput, .networkError, .authentication, .notFound, .timeout, .serialization,
    .apiError, .invalidDag, .pendingResult, .internalError, .unknown]
  name
    | .invalidInput => "invalid_input"
    | .networkError => "network_error"
    | .authentication => "authentication"
    | .notFound => "not_found"
    | .timeout => "timeout"
    | .serialization => "serialization"
    | .apiError => "api_error"
    | .invalidDag => "invalid_dag"
    | .pendingResult => "pending_result"
    | .internalError => "internal_error"
    | .unknown => "unknown"

def name (kind : ErrorKind) : String := Enumerated.name kind

/-- The kind of an error that says nothing about itself. -/
def default : ErrorKind := .unknown

/-- Whether trying again may help. -/
def isRetryable : ErrorKind → Bool
  | .networkError | .timeout | .pendingResult => true
  | _ => false

end ErrorKind

structure Error where
  kind : ErrorKind
  message : Option String := none
  /-- The text of the error that caused this one, with those of what led to that. -/
  cause : Option String := none
deriving DecidableEq, Inhabited

namespace Error

/-- The kind in brackets, then the message if there is one. -/
def text (e : Error) : String :=
  "[" ++ e.kind.name ++ "]" ++ (e.message.map (": " ++ ·)).getD ""

/-- The error with what caused it, joined by colons. -/
def chain (e : Error) : String := e.text ++ (e.cause.map (": " ++ ·)).getD ""

def isRetryable (e : Error) : Bool := e.kind.isRetryable

def withMessage (e : Error) (message : String) : Error := { e with message := some message }

def invalidInput (message : String) : Error := ⟨.invalidInput, some message, none⟩

def invalidDag (message : String) : Error := ⟨.invalidDag, some message, none⟩

def notFound (message : String) : Error := ⟨.notFound, some message, none⟩

/-- A text that is malformed or is not what was asked for. The JSON library's account of it, which would be the cause, is
left out: whoever meets this error looks no further than the message. -/
def invalidPayload : Error := ⟨.serialization, some "Invalid JSON payload", none⟩

end Error

/-- The outcome of something that may fail. -/
abbrev Outcome (α : Type) := Except Error α

end DagConsole
