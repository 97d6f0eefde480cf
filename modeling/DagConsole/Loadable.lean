import DagConsole.Error
import DagConsole.Json.Decoder

/-! Values that are fetched, and how far the fetch has come. -/
namespace DagConsole

inductive LoadingStatus where
  /-- Nothing was requested. -/
  | initial
  /-- A request is under way. -/
  | loading
  /-- The value is there. -/
  | succeeded
  /-- The request failed with a message. -/
  | failed (message : String)
deriving DecidableEq, Inhabited

namespace LoadingStatus

def name : LoadingStatus → String
  | .initial => "initial"
  | .loading => "loading"
  | .succeeded => "succeeded"
  | .failed _ => "failed"

def isLoading (s : LoadingStatus) : Bool := s == .loading

def isSucceeded (s : LoadingStatus) : Bool := s == .succeeded

def error? : LoadingStatus → Option String
  | .failed message => some message
  | _ => none

/-- The fields of a status: its name, and the message of a failure. -/
def jsonFields (s : LoadingStatus) : List (String × Json) :=
  ("status", .string s.name) :: Json.optional "error" (s.error?.map .string)

def toJson (s : LoadingStatus) : Json := .ofFields s.jsonFields

/-- The names of the statuses. -/
inductive Tag where
  | initial
  | loading
  | succeeded
  | failed
deriving DecidableEq

instance : Enumerated Tag where
  members := [.initial, .loading, .succeeded, .failed]
  name
    | .initial => "initial"
    | .loading => "loading"
    | .succeeded => "succeeded"
    | .failed => "failed"

/-- The status of a name and of what stands under `error`: a failure needs a message, and the other
statuses allow null only. -/
def ofContent? (tag : Tag) (content : Option Document) : Option LoadingStatus :=
  match tag, content with
  | .failed, some (.string message) => some (.failed message)
  | .failed, _ => none
  | .initial, none | .initial, some .null => some .initial
  | .loading, none | .loading, some .null => some .loading
  | .succeeded, none | .succeeded, some .null => some .succeeded
  | _, _ => none

/-- Reads an object with a status and perhaps an error, each at most once, or the list of the two. -/
def decode : Decoder LoadingStatus
  | .array [tag, content] => do ofContent? (← Decoder.member tag) (some content)
  | .object members => do
    let tags := members.filter fun member => member.1 == "status"
    let contents := members.filter fun member => member.1 == "error"
    match tags, contents with
    | [(_, tag)], [] => ofContent? (← Decoder.member tag) none
    | [(_, tag)], [(_, content)] =>
      -- The content is read as a value when it stands before the status.
      let _ ← content.value?
      ofContent? (← Decoder.member tag) (some content)
    | _, _ => none
  | _ => none

end LoadingStatus

/-- A fetched value with the state of its fetch; the value is there only after success. -/
inductive Loadable (α : Type) where
  | initial
  | loading
  | succeeded (value : α)
  | failed (message : String)
deriving DecidableEq, Inhabited

namespace Loadable

variable {α : Type}

/-- The state after the outcome of a fetch. -/
def ofOutcome : Outcome α → Loadable α
  | .ok value => .succeeded value
  | .error e => .failed e.text

def status : Loadable α → LoadingStatus
  | .initial => .initial
  | .loading => .loading
  | .succeeded _ => .succeeded
  | .failed message => .failed message

def value? : Loadable α → Option α
  | .succeeded value => some value
  | _ => none

/-- Whether a fetch is needed: nothing was requested, or the last attempt failed. -/
def needsFetch : Loadable α → Bool
  | .initial | .failed _ => true
  | .loading | .succeeded _ => false

def toJson (encode : α → Json) (l : Loadable α) : Json :=
  .ofFields (l.status.jsonFields ++ Json.optional "value" (l.value?.map encode))

end Loadable

end DagConsole
