import DagConsole.Url.Basic

/-! Reading URLs as the URL standard does. -/
namespace DagConsole.Url.Reader

/-- The text without controls and spaces at its ends, and without tabs and line breaks. -/
def tidied (text : List Char) : List Char :=
  let isMargin (c : Char) : Bool := c.toNat ≤ 0x20
  let text := ((text.dropWhile isMargin).reverse.dropWhile isMargin).reverse
  text.filter fun c => c != '\t' && c != '\n' && c != '\r'

def isSchemeChar (c : Char) : Bool := c.isAlphanum || c == '+' || c == '-' || c == '.'

/-- The scheme in front of the first colon, in lower case. -/
def scheme? (text : List Char) : Option (String × List Char) :=
  match text, text.dropWhile isSchemeChar with
  | first :: _, ':' :: rest =>
    if first.isAlpha then
      some (String.ofList ((text.takeWhile isSchemeChar).map Char.toLower), rest)
    else none
  | _, _ => none

/-- The characters that part the segments of a path. -/
def isSlash (kind : SchemeKind) (c : Char) : Bool := c == '/' || (kind.isSpecial && c == '\\')

/-- The characters that end the part between the scheme and the path. -/
def endsAuthority (kind : SchemeKind) (c : Char) : Bool := isSlash kind c || c == '?' || c == '#'

/-- Splits a text at the last `@` in it. -/
def splitCredentials (text : List Char) : Option (List Char × List Char) :=
  if text.contains '@' then
    let host := (text.reverse.takeWhile (· != '@')).reverse
    some (text.take (text.length - host.length - 1), host)
  else none

/-- The length of the host: it ends at a colon that stands in no brackets. -/
def hostLength (inBrackets : Bool) : List Char → Nat
  | [] => 0
  | ':' :: rest => if inBrackets then 1 + hostLength true rest else 0
  | '[' :: rest => 1 + hostLength true rest
  | ']' :: rest => 1 + hostLength false rest
  | _ :: rest => 1 + hostLength inBrackets rest

/-- The number of a port, which has 16 bits; no digits are no port. -/
def port? (digits : List Char) : Except UrlError (Option Nat) :=
  if digits.isEmpty then .ok none
  else
    match (Text.digits? digits).filter (· ≤ 65535) with
    | some port => .ok (some port)
    | none => .error .invalidPort

def isDot (segment : String) : Bool := [".", "%2e"].contains segment.toLower

def isDoubleDot (segment : String) : Bool :=
  ["..", ".%2e", "%2e.", "%2e%2e"].contains segment.toLower

/-- A letter and a colon, which may be spelled as a vertical bar. -/
def isDrive (segment : List Char) : Bool :=
  match segment with
  | [letter, mark] => letter.isAlpha && (mark == ':' || mark == '|')
  | _ => false

/-- Removes the last segment, unless it looks like a drive. -/
def shorten (path : List String) : List String :=
  if path.getLast?.any fun last => isDrive last.toList then path else path.dropLast

/-- Adds a segment to a path; dots lead nowhere or up. -/
def addSegment (isLast : Bool) (path : List String) (segment : List Char) : List String :=
  let text := String.ofList (Percent.encode Percent.path segment)
  if isDoubleDot text then shorten path ++ if isLast then [""] else []
  else if isDot text then path ++ if isLast then [""] else []
  else path ++ [text]

def addSegments (path : List String) : List (List Char) → List String
  | [] => path
  | [last] => addSegment true path last
  | segment :: rest => addSegments (addSegment false path segment) rest

/-- Reads a path, from after its first slash. -/
def segments (kind : SchemeKind) (text : List Char) : List String :=
  addSegments [] (text.splitOnP (isSlash kind))

/-- Reads the path that follows a host. Where it may be empty, it may lack its first slash only if it
is. -/
def rooted (kind : SchemeKind) (text : List Char) : List String :=
  match text with
  | [] => if kind.isSpecial then segments kind [] else []
  | c :: rest => segments kind (if isSlash kind c then rest else text)

/-- Splits a text into the path, the query and the fragment. -/
def splitTail (text : List Char) : List Char × Option (List Char) × Option (List Char) :=
  let (body, fragment) := match text.span (· != '#') with
    | (body, '#' :: fragment) => (body, some fragment)
    | (body, _) => (body, none)
  match body.span (· != '?') with
  | (path, '?' :: query) => (path, some query, fragment)
  | (path, _) => (path, none, fragment)

/-- Adds the query and the fragment. -/
def finish (kind : SchemeKind) (url : Url) (query fragment : Option (List Char)) : Url :=
  let querySet := if kind.isSpecial then Percent.specialQuery else Percent.query
  let encoded (set : Percent.EncodeSet) (text : List Char) : String :=
    String.ofList (Percent.encode set text)
  { url with
    query := query.map (encoded querySet)
    fragment := fragment.map (encoded Percent.fragment) }

/-- Reads the user and the password, the host and the port, which a backslash ends too; what follows
is left to the path. An `@` with nothing before it needs a host at least if something follows it, and
credentials need one always. -/
def authority (kind : SchemeKind) (scheme : String) (text : List Char) :
    Except UrlError (Url × List Char) := do
  let (credentials, rest) ← match splitCredentials text with
    | none => pure ([], text)
    | some (credentials, rest) => pure (credentials, rest)
  let encoded (text : List Char) : String := String.ofList (Percent.encode Percent.userinfo text)
  let username := encoded (credentials.takeWhile (· != ':'))
  let password := encoded ((credentials.dropWhile (· != ':')).drop 1)
  let length := hostLength false rest
  let hostText := rest.take length
  if hostText.isEmpty ∧ kind.isSpecial then throw .emptyHost
  let host ← if kind.isSpecial then Host.ofText hostText else Host.ofAnyText hostText
  if host = .empty ∧ (rest.length ≠ length ∨ !username.isEmpty ∨ !password.isEmpty) then
    throw .emptyHost
  let (digits, left) := ((rest.drop length).drop 1).span (· != '\\')
  let port ← port? digits
  return ({ scheme, username, password, host := some host,
            port := port.filter fun port => defaultPort? scheme != some port, path := .segments [] },
    left)

/-- Reads what follows the two slashes that announce a host. -/
def hosted (kind : SchemeKind) (scheme : String) (text : List Char) : Except UrlError Url := do
  let (before, after) := text.span fun c => !endsAuthority kind c
  if before.getLast? = some '@' ∧ before.length = 1 ∧ !after.isEmpty then throw .emptyHost
  let (url, left) ← authority kind scheme before
  let (path, query, fragment) := splitTail (left ++ after)
  return finish kind { url with path := .segments (rooted kind path) } query fragment

/-- Reads the host in front of the path of a file, if there are two slashes to announce it. The host
that means this machine is left empty, and a drive is no host. -/
def fileHost (text : List Char) : Except UrlError (Host × List Char) :=
  match text with
  | c :: d :: rest =>
    if isSlash .file c ∧ isSlash .file d then
      let (name, after) := rest.span fun c => !endsAuthority .file c
      if name.isEmpty then .ok (.empty, after)
      else if isDrive name then .ok (.empty, rest)
      else (Host.ofText name).map fun host =>
        (if host = .domain "localhost" then .empty else host, after)
    else .ok (.empty, text)
  | _ => .ok (.empty, text)

/-- Whether the path of a file starts with a drive. -/
def startsWithDrive (path : List String) : Bool := path.head?.any fun first => isDrive first.toList

/-- Spells the drive that starts a path with a colon. -/
def withColon : List String → List String
  | drive :: rest => String.ofList (drive.toList.take 1 ++ [':']) :: rest
  | [] => []

/-- The path of a file without the empty segments that it starts with. -/
def withoutEmptyStart (path : List String) : List String :=
  match path.dropWhile String.isEmpty with
  | [] => [""]
  | path => path

/-- Reads a URL of a file, from after the scheme. A host in front of a drive is left out, and the bar
of a drive becomes a colon unless it follows a slash without a host. -/
def ofFile (text : List Char) : Except UrlError Url := do
  let (host, rest) ← fileHost text
  let (path, query, fragment) := splitTail rest
  let isBare := host = .empty ∧ path.head?.any (isSlash .file)
  let path := rooted .file path
  let (host, path) :=
    if startsWithDrive path then (Host.empty, if isBare then path else withColon path)
    else (host, withoutEmptyStart path)
  return finish .file { scheme := "file", host := some host, path := .segments path } query fragment

/-- Reads a URL of a scheme without fixed structure, from after the scheme. -/
def ofOther (scheme : String) (text : List Char) : Except UrlError Url :=
  match text with
  | '/' :: '/' :: rest => hosted .other scheme rest
  | _ =>
    let (path, query, fragment) := splitTail text
    let path := match path with
      | '/' :: rest => .segments (segments .other rest)
      | flat => .flat (String.ofList (Percent.encode Percent.controls flat))
    .ok (finish .other { scheme, path } query fragment)

end DagConsole.Url.Reader

namespace DagConsole.Url

open Reader

/-- Reads a URL with a scheme. -/
def ofText (text : String) : Except UrlError Url :=
  match scheme? (tidied text.toList) with
  | none => .error .noScheme
  | some (scheme, rest) =>
    match SchemeKind.ofScheme scheme with
    | .network => hosted .network scheme (rest.dropWhile (isSlash .network))
    | .file => ofFile rest
    | .other => ofOther scheme rest

end DagConsole.Url
