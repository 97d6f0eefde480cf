import DagConsole.Client.Config
import DagConsole.Client.Response

/-! A client that asks the platform over HTTP. -/
namespace DagConsole

inductive HttpMethod where
  | get
  | post
deriving DecidableEq

/-- A request as it is sent; a body is sent as JSON. -/
structure HttpRequest where
  method : HttpMethod
  url : Url
  apiKey : String
  userAgent : String
  body : Option Json

/-- What comes of sending a request. -/
inductive Exchange where
  | failed (failure : HttpFailure) (told : Diagnosis)
  | answered (status : Nat) (body : List UInt8)

/-- A network, as what comes of each request sent over it. -/
abbrev Wire := HttpRequest → Exchange

/-- What the libraries behind a client tell of what they refuse. -/
structure Diagnoses where
  /-- Of a user agent that cannot be the value of a header. -/
  userAgent : String → Diagnosis
  /-- Of a URL that requests are not sent to. -/
  scheme : Url → Diagnosis
  /-- Of a body that is not the response to a request. -/
  body : Request → List UInt8 → Diagnosis
deriving Inhabited

/-- A configuration that was checked, with the URL that it gives. -/
structure ApiClient where
  config : ApiConfig
  baseUrl : Url
  diagnoses : Diagnoses

namespace ApiClient

/-- Whether a text may be the value of a header: it has no control characters but tabs. -/
def isHeaderValue (text : String) : Bool :=
  text.toList.all fun c => c == '\t' || (0x20 ≤ c.toNat && c.toNat != 0x7F)

def create (diagnoses : Diagnoses) (config : ApiConfig) : Except ClientError ApiClient := do
  config.validate
  let baseUrl ← config.baseUrl
  unless isHeaderValue config.apiKey do
    throw (.config "API key contains invalid header characters")
  unless isHeaderValue config.effectiveUserAgent do
    throw (.http .other (diagnoses.userAgent config.effectiveUserAgent))
  return { config, baseUrl, diagnoses }

/-- The client for diagnostics, which never tell the key. -/
def description (c : ApiClient) : String :=
  "ApiClient \x7b base_url: " ++ Text.quoted c.baseUrl.text ++ ", config: " ++
    c.config.description ++ ", .. \x7d"

/-- The method, the path below the base URL and the body of a request. -/
def route : Request → HttpMethod × List String × Option Json
  | .getWorkflow workflow => (.get, ["api", "workflow", workflow.text], none)
  | .getArtifactResult run artifact =>
    (.get, ["api", "artifact_result", run.text, artifact.text], none)
  | .getOperatorResult run operator =>
    (.get, ["api", "operator_result", run.text, operator.text], none)
  | .getPositions request => (.post, ["api", "positioning"], some request.toJson)
  | .triggerRun workflow parameters =>
    let fields := if parameters.isEmpty then [] else [("parameters", Json.ofMap parameters)]
    (.post, ["api", "workflow", workflow.text, "refresh"], some (.ofFields fields))
  | .editWorkflow workflow update =>
    (.post, ["api", "workflow", workflow.text, "edit"], some update.toJson)
  | .deleteWorkflow workflow => (.post, ["api", "workflow", workflow.text, "delete"], none)

/-- The request as it is sent. Only web addresses are reached. -/
def httpRequest (c : ApiClient) (request : Request) : Except ClientError HttpRequest := do
  let (method, path, body) := route request
  let url ← (c.baseUrl.below path).mapError ClientError.url
  unless url.scheme = "http" ∨ url.scheme = "https" do throw (.http .other (c.diagnoses.scheme url))
  return { method, url, apiKey := c.config.apiKey, userAgent := c.config.effectiveUserAgent, body }

/-- The response that came of sending a request. -/
def response (c : ApiClient) (request : Request) : Exchange → Except ClientError request.Response
  | .failed failure told => .error (.http failure told)
  | .answered status body =>
    Client.receive (c.diagnoses.body request body) request status (reasonPhrase? status) body

/-- Sends a request and reads the answer. -/
def call (c : ApiClient) (wire : Wire) (request : Request) : request.Answer :=
  ((do c.response request (wire (← c.httpRequest request))) :
    Except ClientError request.Response).mapError ClientError.toError

/-- The platform behind a network; nothing is known of its state. -/
def platform (c : ApiClient) (wire : Wire) : Platform Unit :=
  ⟨fun request _ => (c.call wire request, ())⟩

end ApiClient

end DagConsole
