import DagConsole.Identifier
import DagConsole.Schedule.Period

/-! What starts the runs of a workflow. -/
namespace DagConsole

inductive Trigger where
  /-- Only on request. -/
  | manual
  /-- On a cron schedule. -/
  | periodic
  /-- After another workflow completes. -/
  | cascade
deriving DecidableEq, Inhabited

instance : Enumerated Trigger where
  members := [.manual, .periodic, .cascade]
  name
    | .manual => "manual"
    | .periodic => "periodic"
    | .cascade => "cascade"

/-- The trigger of a schedule that names none. -/
def Trigger.default : Trigger := .manual

structure Schedule where
  trigger : Trigger := .manual
  /-- The cron expression, which only a periodic trigger uses. -/
  cron : String := ""
  /-- Whether runs on request are refused. -/
  disableManualTrigger : Bool := false
  paused : Bool := false
  /-- The workflow that a cascade follows. -/
  source : Option WorkflowId := none
deriving DecidableEq, Inhabited

namespace Schedule

def manual : Schedule := {}

def ofPeriod (period : Period) : Schedule := { trigger := .periodic, cron := period.cron }

def cascade (source : WorkflowId) : Schedule := { trigger := .cascade, source := some source }

/-- The period that a periodic schedule's cron expression encodes, if it encodes one. -/
def period? (s : Schedule) : Option Period :=
  if s.trigger = .periodic then (Period.ofCron s.cron).toOption else none

def toJson (s : Schedule) : Json :=
  .ofFields ([("trigger", .string (Enumerated.name s.trigger)), ("cron_schedule", .string s.cron),
    ("disable_manual_trigger", .bool s.disableManualTrigger), ("paused", .bool s.paused)] ++
    Json.optional "source_id" (s.source.map Id.toJson))

def decode : Decoder Schedule := fun doc => do
  let fields ← Decoder.fields
    ["trigger", "cron_schedule", "disable_manual_trigger", "paused", "source_id"] doc
  return {
    trigger := ← fields.withDefault "trigger" .manual Decoder.member
    cron := ← fields.withDefault "cron_schedule" "" Decoder.string
    disableManualTrigger := ← fields.withDefault "disable_manual_trigger" false Decoder.bool
    paused := ← fields.withDefault "paused" false Decoder.bool
    source := ← fields.optional "source_id" Id.decode }

end Schedule

end DagConsole
