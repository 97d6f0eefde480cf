import DagConsole.Error
import DagConsole.Url.Host

/-! What can go wrong between the client and the platform. -/
namespace DagConsole

/-- What a library tells of an error, and of what led to it. The wording is the library's own. -/
structure Diagnosis where
  text : String
  causes : List String := []
deriving DecidableEq, Inhabited

/-- The texts of an error and of what led to it, joined by colons. -/
def Diagnosis.chain (d : Diagnosis) : String := ": ".intercalate (d.text :: d.causes)

/-- Why a request was not sent, or its answer not received. -/
inductive HttpFailure where
  /-- There was no answer in time. -/
  | timeout
  /-- No connection could be made. -/
  | connect
  /-- The body of the answer could not be read. -/
  | decode
  | other
deriving DecidableEq

namespace HttpFailure

def kind : HttpFailure → ErrorKind
  | .timeout => .timeout
  | .connect | .other => .networkError
  | .decode => .serialization

def message (told : Diagnosis) : HttpFailure → String
  | .connect => "Connection failed"
  | _ => told.text

end HttpFailure

inductive ClientError where
  /-- A request that was not sent or not answered in full, as the HTTP library tells it. -/
  | http (failure : HttpFailure) (told : Diagnosis)
  /-- A body that is not what was asked for, as the JSON library tells it. -/
  | json (told : Diagnosis)
  | url (error : UrlError)
  /-- An answer with a status that is no success, and a message or the reason for it. -/
  | status (code : Nat) (message : String)
  /-- An answer that tells an error under a status of success. -/
  | api (message : String)
  | config (message : String)
deriving DecidableEq

namespace ClientError

/-- The error as the client tells it. -/
def text : ClientError → String
  | .http _ told => "HTTP error: " ++ told.text
  | .json told => "Serialization error: " ++ told.text
  | .url error => "Invalid URL: " ++ error.text
  | .status code message => s!"HTTP {code}: {message}"
  | .api message => "API error: " ++ message
  | .config message => "Invalid configuration: " ++ message

/-- The kind of error that a status tells. -/
def kindOfStatus (code : Nat) : ErrorKind :=
  if code = 401 ∨ code = 403 then .authentication
  else if code = 404 then .notFound
  else .networkError

/-- The error as the rest of the library sees it. What a library told is passed on, as the message and as the cause. -/
def toError : ClientError → Error
  | .http failure told => ⟨failure.kind, some (failure.message told), some told.chain⟩
  | .json told => ⟨.serialization, some told.text, some told.chain⟩
  | .url error => ⟨.invalidInput, some error.text, some error.text⟩
  | .status code message => ⟨kindOfStatus code, some s!"HTTP {code}: {message}", none⟩
  | .api message => ⟨.apiError, some message, none⟩
  | .config message => .invalidInput message

/-- What caused the error, if it was a library's. -/
def cause : ClientError → Option String
  | .http _ told | .json told => some told.chain
  | .url error => some error.text
  | _ => none

/-- The texts of the error and of what caused it, joined by colons. -/
def chain (e : ClientError) : String := e.text ++ (e.cause.map (": " ++ ·)).getD ""

end ClientError

end DagConsole
