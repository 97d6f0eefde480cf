import DagConsole.Platform.Canned
import DagConsole.Session.Operation

/-! Two operations under way at once, on a clock that only waiting advances.

A canned platform decides an answer when it is asked and hands it over after its delay, so what the
one operation does while the other waits comes between a request and its response. -/
namespace DagConsole.Race

/-- The store and the platform that the operations share. -/
structure World where
  store : Store
  platform : CannedPlatform

/-- What takes part: an operation, or an instantaneous change of the platform. -/
inductive Entrant (α : Type) where
  | operation (op : Operation α)
  | control (change : CannedPlatform → α × CannedPlatform)

inductive Progress (α : Type) where
  | finished (value : α)
  /-- Goes on at a time, in milliseconds. -/
  | waiting (time : Nat) (next : Entrant α)

variable {α β : Type}

/-- Runs an operation until it has to wait. Answers without delay are there at once. -/
def advance (time : Nat) : Operation α → World → Progress α × World
  | .done value, w => (.finished value, w)
  | .act change next, w => advance time (next w.store) { w with store := change w.store }
  | .ask request next, w =>
    let (answer, platform) := w.platform.answer request
    let w := { w with platform }
    match platform.delay with
    | none => advance time (next answer) w
    | some delay => (.waiting (time + delay) (.operation (next answer)), w)
  | .fetchAll fetches next, w =>
    let (replies, platform) := CannedPlatform.platform.replies w.platform fetches
    match platform.delay with
    | none =>
      let (count, store) := w.store.applyReplies replies
      advance time (next count) ⟨store, platform⟩
    | some delay =>
      let write : Operation α :=
        .act (fun s => (s.applyReplies replies).2) fun s => next (s.applyReplies replies).1
      (.waiting (time + delay) (.operation write), { w with platform })

def Entrant.resume (time : Nat) : Entrant α → World → Progress α × World
  | .operation op, w => advance time op w
  | .control change, w =>
    let (value, platform) := change w.platform
    (.finished value, { w with platform })

/-- Lets the one that waits for the earlier time go on, and of two equally early ones the first, until
both have finished. -/
def interleave : Nat → Progress α → Progress β → World → Option ((α × β) × World)
  | _, .finished a, .finished b, w => some ((a, b), w)
  | 0, _, _, _ => none
  | turns + 1, .waiting time next, .finished b, w =>
    let (first, w) := next.resume time w
    interleave turns first (.finished b) w
  | turns + 1, .finished a, .waiting time next, w =>
    let (second, w) := next.resume time w
    interleave turns (.finished a) second w
  | turns + 1, .waiting time next, .waiting otherTime other, w =>
    if time ≤ otherTime then
      let (first, w) := next.resume time w
      interleave turns first (.waiting otherTime other) w
    else
      let (second, w) := other.resume otherTime w
      interleave turns (.waiting time next) second w

/-- How often the two may go on; an operation of a session waits at most twice. -/
def turnLimit : Nat := 16

/-- Starts the first entrant at once and the second one some milliseconds later, and runs both to their
ends. -/
def run (first : Entrant α) (second : Entrant β) (after : Nat) (w : World) :
    Option ((α × β) × World) :=
  interleave turnLimit (.waiting 0 first) (.waiting after second) w

end DagConsole.Race
