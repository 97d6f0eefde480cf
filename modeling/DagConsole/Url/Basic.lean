import DagConsole.Url.Host

/-! URLs, with their parts in the encoding of the text. -/
namespace DagConsole

/-- How the URL standard treats a scheme. -/
inductive SchemeKind where
  /-- A scheme of network addresses with hosts that are looked up. -/
  | network
  | file
  | other
deriving DecidableEq

namespace SchemeKind

def ofScheme (scheme : String) : SchemeKind :=
  if ["http", "https", "ws", "wss", "ftp"].contains scheme then .network
  else if scheme = "file" then .file
  else .other

/-- Whether backslashes count as slashes, and paths are never empty. -/
def isSpecial (kind : SchemeKind) : Bool := kind != .other

end SchemeKind

/-- The port that a URL of a scheme need not tell. -/
def defaultPort? (scheme : String) : Option Nat :=
  if scheme = "http" ∨ scheme = "ws" then some 80
  else if scheme = "https" ∨ scheme = "wss" then some 443
  else if scheme = "ftp" then some 21
  else none

inductive UrlPath where
  /-- A path below a root, by its segments. -/
  | segments (list : List String)
  /-- A path without hierarchy. -/
  | flat (text : String)
deriving DecidableEq

structure Url where
  scheme : String
  username : String := ""
  password : String := ""
  host : Option Host := none
  /-- The port, unless it is the one of the scheme. -/
  port : Option Nat := none
  path : UrlPath
  query : Option String := none
  fragment : Option String := none
deriving DecidableEq

namespace Url

def credentials (url : Url) : String :=
  if url.username.isEmpty ∧ url.password.isEmpty then ""
  else url.username ++ (if url.password.isEmpty then "" else ":" ++ url.password) ++ "@"

/-- What stands between the scheme and the path. Without a host, a path that starts with an empty
segment is kept from looking like one. -/
def authority (url : Url) : String :=
  match url.host, url.path with
  | some host, _ =>
    "//" ++ url.credentials ++ host.text ++ (url.port.map fun port => s!":{port}").getD ""
  | none, .segments ("" :: _ :: _) => "/."
  | none, _ => ""

def pathText : UrlPath → String
  | .segments list => String.join (list.map ("/" ++ ·))
  | .flat text => text

def text (url : Url) : String :=
  url.scheme ++ ":" ++ url.authority ++ pathText url.path ++
    (url.query.map ("?" ++ ·)).getD "" ++ (url.fragment.map ("#" ++ ·)).getD ""

/-- The URL of a path relative to this one: its segments replace the last segment here. -/
def below (url : Url) (segments : List String) : Except UrlError Url :=
  match url.path with
  | .segments list =>
    .ok { url with path := .segments (list.dropLast ++ segments), query := none, fragment := none }
  | .flat _ => .error .noHierarchy

end Url

end DagConsole
