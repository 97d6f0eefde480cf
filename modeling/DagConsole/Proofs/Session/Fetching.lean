import DagConsole.Proofs.Session.Transcript
import DagConsole.Proofs.Store.Batch
import DagConsole.Proofs.Store.Delivery
import DagConsole.Proofs.Store.InFlight

/-! Fetching the results of several nodes at once, with nothing else going on: what lacks a result is asked for once,
and shows what was answered. -/
namespace DagConsole

namespace Reply

theorem inquiry_eq (reply : Reply) : reply.inquiry = ⟨reply.handle.request, reply.answer⟩ := by
  cases reply <;> rfl

theorem ofFetch_fetch (reply : Reply) : Store.Handle.ofFetch reply.fetch = reply.handle := by
  cases reply <;> rfl

end Reply

namespace Store

/-- What is asked for a target within a run. -/
def Target.request? (run : DagResultId) : Target → Option Request
  | .artifact id => some (.getArtifactResult run id)
  | .operator id => some (.getOperatorResult run id)
  | .workflow | .layout => none

/-- Within the selected run, it is what a fetch asks for the target of its handle. -/
theorem Handle.request?_target {s : Store} {run : DagResult} (handle : Handle) (fits : handle.Fits s)
    (selected : s.selectedResult = some run) (node : handle.target.isNode) :
    handle.target.request? run.id = some handle.request := by
  cases handle with
  | workflow _ _ | layout _ _ => cases node
  | artifact ticket id | operator ticket id =>
    have within : run.id = ticket.run := by simpa [selected] using fits.1
    rw [within]
    rfl

end Store

namespace Session

open Operation Store

variable {s t u : Store} {ids : List NodeId} {log : List Inquiry} {handles : List Handle}

/-- What is left of a fetch of several nodes that asked with some handles. -/
structure Fetched (s : Store) (ids : List NodeId) (handles : List Handle) (log : List Inquiry) (t : Store) : Prop where
  same : SamePage s t
  selection : t.selection = s.selection
  fits : ∀ handle ∈ handles, handle.epoch = s.epoch ∧ handle.Fits s
  targets : handles.map Handle.target = s.lacking ids
  distinct : (handles.map Handle.target).Nodup
  requests : (log.map Inquiry.request).Perm (handles.map Handle.request)
  written : ∀ handle ∈ handles, ∃ answer, ⟨handle.request, answer⟩ ∈ log ∧
    t.slot handle.target = handle.content answer
  kept : ∀ target ∉ s.lacking ids, t.slot target = s.slot target

/-- What was asked for is what was lacking, within the selected run. -/
theorem Fetched.mem_requests {run : DagResult} {request : Request} (fetched : Fetched s ids handles log t)
    (selected : s.selectedResult = some run) :
    request ∈ log.map Inquiry.request ↔ ∃ target ∈ s.lacking ids, target.request? run.id = some request := by
  have own : ∀ handle ∈ handles, handle.target.request? run.id = some handle.request := by
    intro handle given
    have lacking : handle.target ∈ s.lacking ids := fetched.targets ▸ List.mem_map_of_mem given
    exact handle.request?_target (fetched.fits handle given).2 selected (isNode_of_lacking lacking)
  rw [fetched.requests.mem_iff, ← fetched.targets, List.mem_map]
  constructor
  · rintro ⟨handle, given, rfl⟩
    exact ⟨handle.target, List.mem_map_of_mem given, own handle given⟩
  · rintro ⟨target, asked, same⟩
    obtain ⟨handle, given, rfl⟩ := List.mem_map.mp asked
    exact ⟨handle, given, Option.some.inj ((own handle given).symm.trans same)⟩

/-- Every answer finds what it is for on its way, and is the only one for it. -/
theorem fetched_of_replies {replies : List Reply} (batch : Batch s ids handles u)
    (awaited : (replies.map Reply.handle).Perm handles) :
    (u.applyReplies replies).1 = handles.length ∧
      Fetched s ids handles (replies.map Reply.inquiry) (u.applyReplies replies).2 := by
  have wanted : ∀ reply ∈ replies, u.wants reply.handle := by
    intro reply sent
    obtain ⟨epoch, fits⟩ := batch.fits _ (awaited.mem_iff.mp (List.mem_map_of_mem sent))
    rw [batch.same.wants]
    exact wants_of_fits epoch fits
  have targets : (replies.map fun reply => reply.handle.target).Perm (handles.map Handle.target) := by
    have mapped := awaited.map Handle.target
    rwa [List.map_map] at mapped
  have distinct := targets.nodup_iff.mpr batch.distinct
  refine ⟨?_, batch.same.trans (page_applyReplies wanted), (selection_applyReplies wanted).trans batch.selection,
    batch.fits, batch.targets, batch.distinct, ?_, ?_, ?_⟩
  · rw [count_applyReplies wanted, ← awaited.length_eq, List.length_map]
  · have requests := awaited.map Handle.request
    rw [List.map_map] at requests ⊢
    refine .trans (.of_eq (List.map_congr_left fun reply _ => ?_)) requests
    rw [Function.comp_apply, reply.inquiry_eq]
    rfl
  · intro handle given
    obtain ⟨reply, sent, rfl⟩ := List.mem_map.mp (awaited.mem_iff.mpr given)
    refine ⟨reply.answer, ?_, slot_applyReplies wanted distinct sent⟩
    exact List.mem_map.mpr ⟨reply, sent, reply.inquiry_eq⟩
  · intro target absent
    rw [slot_applyReplies_of_absent wanted, batch.kept target absent]
    intro reply sent same
    rw [← batch.targets] at absent
    exact absent (targets.mem_iff.mp (List.mem_map.mpr ⟨reply, sent, same⟩))

/-- A fetch of several nodes is refused before anything is asked, or everything that lacks a result gets an answer. -/
theorem fetched_of_runs {value : Outcome Nat} (ran : (fetchNodeResults ids).run.Runs s log value t) :
    (∃ e, s.beginNodeFetches ids = (.error e, s) ∧ value = .error e ∧ log = [] ∧ t = s) ∨
      ∃ handles, value = .ok handles.length ∧ Fetched s ids handles log t := by
  rcases beginNodeFetches_cases s ids with ⟨e, failed⟩ | ⟨fetches, u, begun, batch⟩
  · rcases runs_attempt_bind.mp ran with ⟨other, refused, rfl, rfl, rfl⟩ | ⟨fetches, begun, _⟩
    · rw [failed] at refused ⊢
      cases refused
      exact .inl ⟨e, rfl, rfl, rfl, rfl⟩
    · rw [failed] at begun
      cases begun
  · right
    refine ⟨fetches.map .ofFetch, ?_⟩
    rcases runs_attempt_bind.mp ran with ⟨other, refused, _⟩ | ⟨others, same, rest⟩
    · rw [begun] at refused
      cases refused
    · rw [begun] at same rest
      cases same
      dsimp only at rest
      split at rest
      · rename_i nothing
        obtain rfl : fetches = [] := List.isEmpty_iff.mp nothing
        obtain ⟨rfl, rfl, rfl⟩ := runs_done.mp rest
        have none : (([] : List Reply).map Reply.handle).Perm [] := .nil
        exact ⟨rfl, (fetched_of_replies batch none).2⟩
      · obtain ⟨count, asks, rfl⟩ := runs_lift.mp rest
        obtain ⟨replies, rest, awaited, rfl, ends⟩ := runs_fetchAll.mp asks
        obtain ⟨rfl, rfl, rfl⟩ := runs_done.mp ends
        have handles := awaited.map Handle.ofFetch
        rw [List.map_map, List.map_congr_left fun reply _ => reply.ofFetch_fetch] at handles
        obtain ⟨all, fetched⟩ := fetched_of_replies batch handles
        rw [all, List.append_nil]
        exact ⟨rfl, fetched⟩

/-- The drawn outputs are fetched once a run is shown. -/
theorem annotations_of_runs {value : Outcome Nat} (ran : fetchAnnotations.run.Runs s log value t) :
    (s.selectedResult = none ∧ log = [] ∧ value = .ok 0 ∧ t = s) ∨
      s.selectedResult.isSome ∧ (fetchNodeResults (annotatedNodes s)).run.Runs s log value t := by
  have fetches := runs_access_bind.mp ran
  cases selected : s.selectedResult with
  | none =>
    rw [selected] at fetches
    exact .inl ⟨rfl, runs_done.mp fetches⟩
  | some run =>
    rw [selected] at fetches
    exact .inr ⟨rfl, fetches⟩

/-- How a click on a node can end. -/
inductive Clicks (id : NodeId) (s : Store) : List Inquiry → Outcome NodeType → Store → Prop where
  | foreign (unknown : s.nodeType? id = none) : Clicks id s [] (.error (foreignNode id)) s
  /-- Before the first run there is nothing to fetch. -/
  | unselected {type : NodeType} (known : s.nodeType? id = some type) (never : s.selectedResult = none) :
      Clicks id s [] (.ok type) { s with selection := .ofNode id type }
  | refused {type : NodeType} (known : s.nodeType? id = some type) (selected : s.selectedResult.isSome)
      (unfetchable : ¬Fetchable s (shownNodes s id type)) (e : Error) :
      Clicks id s [] (.error e) { s with selection := .ofNode id type }
  | fetched {type : NodeType} (known : s.nodeType? id = some type) (selected : s.selectedResult.isSome)
      {handles : List Handle} {log : List Inquiry} {t : Store}
      (fetched : Fetched { s with selection := .ofNode id type } (shownNodes s id type) handles log t) :
      Clicks id s log (.ok type) t

theorem selectNode_of_known {id : NodeId} {type : NodeType} (known : s.nodeType? id = some type) : selectNode id s =
    (.ok (type, if s.selectedResult.isNone then [] else shownNodes s id type),
      { s with selection := .ofNode id type }) := by
  simp only [selectNode, Store.clickNode, known]
  rfl

/-- A fetch whose count is not looked at fails exactly if the fetch does. -/
theorem uncounted_of_runs {type : NodeType} {value : Outcome NodeType}
    (ran : (discard (fetchNodeResults ids) >>= fun _ => pure type : Action NodeType).run.Runs s log value t) :
    ∃ count, (fetchNodeResults ids).run.Runs s log count t ∧ value = count.map fun _ => type := by
  rcases runs_except_bind.mp ran with ⟨e, fetches, rfl⟩ | ⟨one, _, u, other, fetches, ends, rfl⟩
  · obtain ⟨count, fetches, failed⟩ := runs_discard.mp fetches
    cases count with
    | error _ => exact ⟨_, fetches, congrArg Except.error (Except.error.inj failed)⟩
    | ok _ => cases failed
  · obtain ⟨count, fetches, succeeded⟩ := runs_discard.mp fetches
    obtain ⟨rfl, rfl, rfl⟩ := runs_done.mp ends
    rw [List.append_nil]
    cases count with
    | error _ => cases succeeded
    | ok _ => exact ⟨_, fetches, rfl⟩

theorem clicks_of_runs {id : NodeId} {value : Outcome NodeType} (ran : (clickNode id).run.Runs s log value t) :
    Clicks id s log value t := by
  have clicks := runs_attempt_bind.mp ran
  cases known : s.nodeType? id with
  | none =>
    have failed : selectNode id s = (.error (foreignNode id), s) := by simp only [selectNode, Store.clickNode, known]
    rw [failed] at clicks
    rcases clicks with ⟨_, same, rfl, rfl, rfl⟩ | ⟨_, same, _⟩
    · cases same
      exact .foreign known
    · cases same
  | some type =>
    rw [selectNode_of_known known] at clicks
    rcases clicks with ⟨_, same, _⟩ | ⟨_, same, rest⟩
    · cases same
    · cases same
      cases selected : s.selectedResult with
      | none =>
        rw [selected] at rest
        obtain ⟨rfl, rfl, rfl⟩ := runs_done.mp rest
        exact .unselected known selected
      | some run =>
        have shown : s.selectedResult.isSome := by rw [selected]; rfl
        rw [selected] at rest
        obtain ⟨count, fetches, rfl⟩ := uncounted_of_runs rest
        rcases fetched_of_runs fetches with ⟨e, refused, rfl, rfl, rfl⟩ | ⟨handles, rfl, fetched⟩
        · refine .refused known shown (fun fetchable => ?_) e
          have same : SamePage s { s with selection := .ofNode id type } := ⟨rfl, rfl, rfl, rfl, rfl, rfl⟩
          obtain ⟨_, _, begun⟩ := beginNodeFetches_ok_iff.mpr (same.fetchable fetchable)
          cases begun.symm.trans refused
        · exact .fetched known shown fetched

end Session

end DagConsole
