import DagConsole.Client.Error
import DagConsole.Json.Decoder
import DagConsole.Text.Blank
import DagConsole.Text.Quoted
import DagConsole.Url.Reader

/-! How the platform is reached. -/
namespace DagConsole

structure ApiConfig where
  /-- A host, perhaps with a port and a path, or a whole URL. -/
  address : String
  https : Bool := false
  apiKey : String
  /-- Seconds to wait for an answer; zero stands for the default. -/
  timeout : Nat := 30
  userAgent : Option String := none
deriving DecidableEq

namespace ApiConfig

def defaultTimeout : Nat := 30

def defaultUserAgent : String := "flowdeck/0.1.0"

def effectiveTimeout (c : ApiConfig) : Nat := if c.timeout = 0 then defaultTimeout else c.timeout

def effectiveUserAgent (c : ApiConfig) : String := c.userAgent.getD defaultUserAgent

/-- The address without blanks around it and slashes at its end. -/
def host (c : ApiConfig) : List Char :=
  Text.dropEndWhile (· == '/') (Text.trimBlanks c.address.toList)

/-- Whether an address names its scheme. -/
def namesScheme : List Char → Bool
  | ':' :: '/' :: '/' :: _ => true
  | _ :: rest => namesScheme rest
  | [] => false

/-- The URL below which all requests go. A scheme in the address takes precedence. -/
def baseUrl (c : ApiConfig) : Except ClientError Url :=
  let scheme := if namesScheme c.host then "" else if c.https then "https://" else "http://"
  (Url.ofText (scheme ++ String.ofList c.host ++ "/")).mapError ClientError.url

def validate (c : ApiConfig) : Except ClientError Unit := do
  if (Text.trim c.address).isEmpty then throw (.config "API address must not be empty")
  if (Text.trim c.apiKey).isEmpty then throw (.config "API key must not be empty")
  discard c.baseUrl

/-- The configuration for diagnostics, which never tell the key. -/
def description (c : ApiConfig) : String :=
  let userAgent := match c.userAgent with
    | some text => "Some(" ++ Text.quoted text ++ ")"
    | none => "None"
  "ApiConfig \x7b api_address: " ++ Text.quoted c.address ++ ", use_https: " ++ toString c.https ++
    ", api_key: \"<redacted>\", http_timeout: " ++ toString c.timeout ++ ", user_agent: " ++
    userAgent ++ " \x7d"

def toJson (c : ApiConfig) : Json :=
  .ofFields [("api_address", .string c.address), ("use_https", .bool c.https),
    ("api_key", .string c.apiKey), ("http_timeout", .ofNat c.timeout),
    ("user_agent", Json.nullable (c.userAgent.map .string))]

def decode : Decoder ApiConfig := fun doc => do
  let fields ← Decoder.fields
    ["api_address", "use_https", "api_key", "http_timeout", "user_agent"] doc
  return {
    address := ← fields.required "api_address" Decoder.string
    https := ← fields.withDefault "use_https" false Decoder.bool
    apiKey := ← fields.required "api_key" Decoder.string
    timeout := ← fields.withDefault "http_timeout" defaultTimeout Decoder.natural64
    userAgent := ← fields.optional "user_agent" Decoder.string }

end ApiConfig

end DagConsole
