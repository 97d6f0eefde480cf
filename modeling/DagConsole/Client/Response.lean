import DagConsole.Client.Error
import DagConsole.Json.Reader
import DagConsole.Platform.Request

/-! What the answers to HTTP requests mean. -/
namespace DagConsole

/-- The phrase that the HTTP standards give for a status. -/
def reasonPhrase? : Nat → Option String
  | 100 => some "Continue"
  | 101 => some "Switching Protocols"
  | 102 => some "Processing"
  | 103 => some "Early Hints"
  | 200 => some "OK"
  | 201 => some "Created"
  | 202 => some "Accepted"
  | 203 => some "Non Authoritative Information"
  | 204 => some "No Content"
  | 205 => some "Reset Content"
  | 206 => some "Partial Content"
  | 207 => some "Multi-Status"
  | 208 => some "Already Reported"
  | 226 => some "IM Used"
  | 300 => some "Multiple Choices"
  | 301 => some "Moved Permanently"
  | 302 => some "Found"
  | 303 => some "See Other"
  | 304 => some "Not Modified"
  | 305 => some "Use Proxy"
  | 307 => some "Temporary Redirect"
  | 308 => some "Permanent Redirect"
  | 400 => some "Bad Request"
  | 401 => some "Unauthorized"
  | 402 => some "Payment Required"
  | 403 => some "Forbidden"
  | 404 => some "Not Found"
  | 405 => some "Method Not Allowed"
  | 406 => some "Not Acceptable"
  | 407 => some "Proxy Authentication Required"
  | 408 => some "Request Timeout"
  | 409 => some "Conflict"
  | 410 => some "Gone"
  | 411 => some "Length Required"
  | 412 => some "Precondition Failed"
  | 413 => some "Payload Too Large"
  | 414 => some "URI Too Long"
  | 415 => some "Unsupported Media Type"
  | 416 => some "Range Not Satisfiable"
  | 417 => some "Expectation Failed"
  | 418 => some "I'm a teapot"
  | 421 => some "Misdirected Request"
  | 422 => some "Unprocessable Entity"
  | 423 => some "Locked"
  | 424 => some "Failed Dependency"
  | 425 => some "Too Early"
  | 426 => some "Upgrade Required"
  | 428 => some "Precondition Required"
  | 429 => some "Too Many Requests"
  | 431 => some "Request Header Fields Too Large"
  | 451 => some "Unavailable For Legal Reasons"
  | 500 => some "Internal Server Error"
  | 501 => some "Not Implemented"
  | 502 => some "Bad Gateway"
  | 503 => some "Service Unavailable"
  | 504 => some "Gateway Timeout"
  | 505 => some "HTTP Version Not Supported"
  | 506 => some "Variant Also Negotiates"
  | 507 => some "Insufficient Storage"
  | 508 => some "Loop Detected"
  | 510 => some "Not Extended"
  | 511 => some "Network Authentication Required"
  | _ => none

namespace Client

/-- The message of a body that tells an error: a nonempty string under `error`. -/
def errorMessage? (body : List UInt8) : Option String := do
  let fields ← Decoder.fields ["error"] (← Document.ofBytes? body)
  let message ← (← fields.optional "error" Decoder.string)
  if message.isEmpty then none else some message

def isSuccess (status : Nat) : Bool := 200 ≤ status && status < 300

/-- Tells success from failure. A status of failure is explained by the message in the body, or by the
phrase for the status; under a status of success the message is the error. -/
def check (status : Nat) (reason : Option String) (body : List UInt8) : Except ClientError Unit :=
  if isSuccess status then
    match errorMessage? body with
    | some message => .error (.api message)
    | none => .ok ()
  else .error (.status status (((errorMessage? body).or reason).getD "request failed"))

/-- Reads the response to a request out of a body. A request that changes something has no response to
read, so any body will do. -/
def decodeBody : (request : Request) → List UInt8 → Option request.Response
  | .getWorkflow _, body => (Document.ofBytes? body).bind Snapshot.decode
  | .getArtifactResult _ _, body => (Document.ofBytes? body).bind ArtifactResult.decode
  | .getOperatorResult _ _, body => (Document.ofBytes? body).bind OperatorResult.decode
  | .getPositions _, body => (Document.ofBytes? body).bind Layout.decode
  | .triggerRun _ _, _ | .editWorkflow _ _, _ | .deleteWorkflow _, _ => some ()

/-- The response that an answer with a status and a body carries, given what the JSON library tells of the body should it
be another one. -/
def receive (diagnosis : Diagnosis) (request : Request) (status : Nat) (reason : Option String) (body : List UInt8) :
    Except ClientError request.Response := do
  check status reason body
  match decodeBody request body with
  | some response => return response
  | none => throw (.json diagnosis)

end Client

end DagConsole
