import DagConsole.Proofs.Session.Fetching
import DagConsole.Proofs.Session.Requests

/-! Sessions that wait for each operation before they start the next one. Between two operations nothing is on its way,
and what is there of the outputs of a run was the last answer for them. -/
namespace DagConsole.Session

open Operation Store

/-! ### Looking around -/

/-- The operations with which one looks around in a workflow. -/
def Call.isBrowsing : Call → Bool
  | .selectResult _ | .clickNode _ | .clickPane | .fetchNodeResults _ | .fetchAnnotations => true
  | _ => false

/-- Operations one after another, whatever becomes of each. -/
def performEach : List Call → Operation Unit
  | [] => .done ()
  | call :: rest => call.body.run.bind fun _ => performEach rest

/-- What each of some operations keeps is kept by all of them one after another. -/
theorem invariant_of_performEach {calls : List Call} (inv : List Inquiry → Store → Prop) (log : List Inquiry)
    {more : List Inquiry} {s t : Store}
    (step : ∀ call ∈ calls, ∀ {log more s t value}, inv log s → call.body.run.Runs s more value t → inv (log ++ more) t)
    (start : inv log s) (ran : (performEach calls).Runs s more () t) : inv (log ++ more) t := by
  induction calls generalizing log s more with
  | nil =>
    obtain ⟨rfl, _, rfl⟩ := runs_done.mp ran
    rwa [List.append_nil]
  | cons call rest ih =>
    obtain ⟨one, _, u, other, first, others, rfl⟩ := (runs_bind call.body.run fun _ => performEach rest).mp ran
    have next := step call List.mem_cons_self start first
    rw [← List.append_assoc]
    exact ih (log ++ one) (fun call later => step call (List.mem_cons_of_mem _ later)) next others

/-- Between operations: a run of a version that can be drawn is shown, no output is on its way, and each one that has a
value has it from the last answer for it. -/
structure Settled (log : List Inquiry) (s : Store) : Prop where
  run : s.selectedResult.isSome
  dag : s.activeDag.isSome
  sound : ∀ dag ∈ s.dags.values, dag.validate = .ok () ∧ dag.WellKeyed ∧ dag.Apart
  idle : ∀ artifact, s.slot (.artifact artifact) ≠ .loading
  answered : ∀ {run artifact result}, s.selectedResult = some run → s.slot (.artifact artifact) = .succeeded result →
    LastAnswer log (.getArtifactResult run.id artifact) (.ok result)

variable {s t : Store} {log more : List Inquiry} {ids : List NodeId} {handles : List Handle}

/-- Nothing has been fetched yet. -/
theorem Settled.of_restart (restart : Restart s t) (run : t.selectedResult.isSome) (dag : t.activeDag.isSome)
    (sound : ∀ dag ∈ t.dags.values, dag.validate = .ok () ∧ dag.WellKeyed ∧ dag.Apart) (log : List Inquiry) :
    Settled log t := by
  have initial (artifact : ArtifactId) : t.slot (.artifact artifact) = .initial := restart.slot nofun
  refine ⟨run, dag, sound, fun artifact loading => ?_, fun _ filled => ?_⟩
  · rw [initial] at loading
    cases loading
  · rw [initial] at filled
    cases filled

theorem Settled.of_same (settled : Settled log s) (same : SamePage s t)
    (slots : ∀ artifact, t.slot (.artifact artifact) = s.slot (.artifact artifact)) : Settled log t := by
  refine ⟨same.selectedResult ▸ settled.run, same.activeDag ▸ settled.dag, same.dags ▸ settled.sound, ?_, ?_⟩
  · intro artifact
    rw [slots]
    exact settled.idle artifact
  · intro run artifact result selected filled
    rw [slots] at filled
    exact settled.answered (same.selectedResult ▸ selected) filled

theorem Settled.append (settled : Settled log s)
    (absent : ∀ inquiry ∈ more, ∀ run artifact, inquiry.request ≠ .getArtifactResult run artifact) :
    Settled (log ++ more) s :=
  { settled with answered := fun selected filled =>
      (settled.answered selected filled).append fun inquiry member => absent inquiry member _ _ }

/-! ### Fetching -/

theorem target_of_request {one other : Handle} (same : one.request = other.request) : one.target = other.target := by
  cases one with
  | workflow _ _ | layout _ _ => cases other <;> first | rfl | cases same
  | artifact _ _ =>
    cases other with
    | artifact _ _ => exact congrArg Target.artifact (Request.getArtifactResult.inj same).2
    | workflow _ _ | operator _ _ | layout _ _ => cases same
  | operator _ _ =>
    cases other with
    | operator _ _ => exact congrArg Target.operator (Request.getOperatorResult.inj same).2
    | workflow _ _ | artifact _ _ | layout _ _ => cases same

namespace Fetched

variable {run : DagResult} {artifact : ArtifactId}

theorem nodup_requests (fetched : Fetched s ids handles more t) : (more.map Inquiry.request).Nodup := by
  rw [fetched.requests.nodup_iff]
  exact List.pairwise_map.mpr ((List.pairwise_map.mp fetched.distinct).imp fun apart same =>
    apart (target_of_request same))

/-- An output that lacked a value shows the answer for it. -/
theorem answer_of_lacking (fetched : Fetched s ids handles more t) (selected : s.selectedResult = some run)
    (lacking : .artifact artifact ∈ s.lacking ids) : ∃ answer,
      ⟨.getArtifactResult run.id artifact, answer⟩ ∈ more ∧ t.slot (.artifact artifact) = .ofOutcome answer := by
  rw [← fetched.targets] at lacking
  obtain ⟨handle, given, target⟩ := List.mem_map.mp lacking
  have request := handle.request?_target (fetched.fits handle given).2 selected (target ▸ rfl)
  obtain ⟨answer, member, slot⟩ := fetched.written handle given
  cases handle with
  | artifact ticket id =>
    cases target
    have own : run.id = ticket.run := (Request.getArtifactResult.inj (Option.some.inj request)).1
    rw [own]
    exact ⟨answer, member, slot⟩
  | workflow _ _ | operator _ _ | layout _ _ => cases target

/-- For one that did not, nothing was asked. -/
theorem request_ne_of_filled (fetched : Fetched s ids handles more t) (selected : s.selectedResult = some run)
    (filled : .artifact artifact ∉ s.lacking ids) :
    ∀ inquiry ∈ more, inquiry.request ≠ .getArtifactResult run.id artifact := by
  intro inquiry member same
  obtain ⟨target, lacking, asked⟩ := (fetched.mem_requests selected).mp (List.mem_map_of_mem member)
  rw [same] at asked
  cases target with
  | artifact _ =>
    cases asked
    exact filled lacking
  | workflow | operator _ | layout => cases asked

end Fetched

/-- What is there after a fetch was there before, or is the answer that the fetch has got. -/
theorem Settled.fetched (settled : Settled log s) (fetched : Fetched s ids handles more t) : Settled (log ++ more) t := by
  obtain ⟨run, selected⟩ := Option.isSome_iff_exists.mp settled.run
  have same := fetched.same
  refine ⟨same.selectedResult ▸ settled.run, same.activeDag ▸ settled.dag, same.dags ▸ settled.sound, ?_, ?_⟩
  · intro artifact
    by_cases lacking : .artifact artifact ∈ s.lacking ids
    · obtain ⟨answer, _, slot⟩ := fetched.answer_of_lacking selected lacking
      rw [slot]
      exact Loadable.ofOutcome_ne_loading answer
    · rw [fetched.kept _ lacking]
      exact settled.idle artifact
  · intro shown artifact result still filled
    rw [same.selectedResult, selected] at still
    cases still
    by_cases lacking : .artifact artifact ∈ s.lacking ids
    · obtain ⟨answer, member, slot⟩ := fetched.answer_of_lacking selected lacking
      rw [slot] at filled
      cases Loadable.ofOutcome_eq_succeeded_iff.mp filled
      exact .of_mem log fetched.nodup_requests member
    · rw [fetched.kept _ lacking] at filled
      exact (settled.answered selected filled).append (fetched.request_ne_of_filled selected lacking)

/-! ### What each operation keeps -/

theorem settled_of_fetch {value : Outcome Nat} (settled : Settled log s)
    (ran : (fetchNodeResults ids).run.Runs s more value t) : Settled (log ++ more) t := by
  rcases fetched_of_runs ran with ⟨_, _, _, rfl, rfl⟩ | ⟨handles, _, fetched⟩
  · rwa [List.append_nil]
  · exact settled.fetched fetched

theorem settled_of_fetchAnnotations {value : Outcome Nat} (settled : Settled log s)
    (ran : fetchAnnotations.run.Runs s more value t) : Settled (log ++ more) t := by
  rcases annotations_of_runs ran with ⟨_, rfl, _, rfl⟩ | ⟨_, fetches⟩
  · rwa [List.append_nil]
  · exact settled_of_fetch settled fetches

theorem settled_of_selectResult {index : Nat} {value : Outcome Unit} (settled : Settled log s)
    (ran : (selectResult index).run.Runs s more value t) : Settled (log ++ more) t := by
  obtain ⟨rfl, _, rfl⟩ := runs_attempt.mp ran
  rw [List.append_nil]
  rcases selectResult_cases s index with ⟨e, failed⟩ | ⟨result, found, known⟩
  · rwa [failed]
  · have replaces : Replaces s (.selectResult index) := .selectResult (by rw [selectResult_of_known found known])
    have restart : Restart s (s.selectResult index).2 := replaces.restart
    rw [selectResult_of_known found known] at restart ⊢
    exact .of_restart restart (Option.isSome_iff_exists.mpr ⟨result, found⟩) known settled.sound log

theorem settled_of_clickNode {id : NodeId} {value : Outcome NodeType} (settled : Settled log s)
    (ran : (clickNode id).run.Runs s more value t) : Settled (log ++ more) t := by
  have selected (type : NodeType) : Settled log { s with selection := .ofNode id type } :=
    settled.of_same ⟨rfl, rfl, rfl, rfl, rfl, rfl⟩ fun _ => rfl
  cases clicks_of_runs ran with
  | foreign _ => rwa [List.append_nil]
  | unselected _ _ | refused _ _ _ _ =>
    rw [List.append_nil]
    exact selected _
  | fetched _ _ fetched => exact (selected _).fetched fetched

theorem settled_of_call {call : Call} {value : Outcome Unit} (settled : Settled log s) (browsing : call.isBrowsing)
    (ran : call.body.run.Runs s more value t) : Settled (log ++ more) t := by
  cases call with
  | selectResult index => exact settled_of_selectResult settled ran
  | clickNode id =>
    obtain ⟨_, clicks, _⟩ := runs_discard.mp ran
    exact settled_of_clickNode settled clicks
  | clickPane =>
    obtain ⟨rfl, _, rfl⟩ := runs_access.mp ran
    rw [List.append_nil]
    exact settled.of_same ⟨rfl, rfl, rfl, rfl, rfl, rfl⟩ fun _ => rfl
  | fetchNodeResults ids =>
    obtain ⟨_, fetches, _⟩ := runs_discard.mp ran
    exact settled_of_fetch settled fetches
  | fetchAnnotations =>
    obtain ⟨_, fetches, _⟩ := runs_discard.mp ran
    exact settled_of_fetchAnnotations settled fetches
  | _ => cases browsing

theorem settled_of_browsing {calls : List Call} (browsing : ∀ call ∈ calls, call.isBrowsing) (settled : Settled log s)
    (ran : (performEach calls).Runs s more () t) : Settled (log ++ more) t :=
  invariant_of_performEach Settled log
    (fun call member _ _ _ _ _ settled => settled_of_call settled (browsing call member)) settled ran

section Ends

variable {id : WorkflowId} {preferred : Option DagResultId} {snapshot : Snapshot}

/-- A workflow that has runs shows one of them once it is open. -/
theorem settled_of_opened (opens : (openWorkflow id preferred).run.Runs s log (.ok ()) t)
    (loaded : ⟨.getWorkflow id, .ok snapshot⟩ ∈ log) (runs : snapshot.results ≠ [])
    (keyed : ∀ dag ∈ snapshot.dags.values, dag.WellKeyed ∧ dag.Apart) : Settled log t := by
  obtain ⟨answer, rfl, opened⟩ := opened_of_runs opens
  cases List.mem_singleton.mp loaded
  cases opened with
  | loaded valid =>
    obtain ⟨known, sound⟩ := Snapshot.validate_eq_ok_iff.mp valid
    have restart := restart_loaded snapshot preferred (s.beginWorkflow id).2
    have order := Sorting.perm_sortBy DagResult.mayPrecede snapshot.results
    rcases shown_of_loaded snapshot preferred (s.beginWorkflow id).2 with
      ⟨index, result, _, found, selected, active⟩ | ⟨none, _, _⟩
    · refine .of_restart restart ?_ ?_ (fun dag member => ⟨sound dag member, keyed dag member⟩) _
      · rw [Store.selectedResult, selected]
        exact Option.isSome_iff_exists.mpr ⟨result, found⟩
      · rw [Store.activeDag, active]
        exact known result (order.mem_iff.mp (List.mem_of_getElem? found))
    · rw [Snapshot.newestFirst] at none
      rw [none] at order
      exact absurd (List.nil_perm.mp order) runs

/-- A layout that was resolved is there. -/
theorem settled_of_laidOut (settled : Settled log s) (resolved : resolveLayout.run.Runs s more (.ok ()) t) :
    Settled (log ++ more) t ∧ ∃ layout, t.layout = .succeeded layout := by
  generalize ended : (.ok () : Outcome Unit) = value at resolved
  cases resolved_of_runs resolved with
  | inactive => cases ended
  | written request answer =>
    cases answer with
    | error e => cases ended
    | ok layout =>
      refine ⟨?_, layout, rfl⟩
      have asked : Settled (log ++ [⟨.getPositions request, .ok layout⟩]) s :=
        settled.append (List.forall_mem_singleton.mpr nofun)
      exact asked.of_same ⟨rfl, rfl, rfl, rfl, rfl, rfl⟩ fun _ => rfl

end Ends

/-- A workflow that ran once. -/
def checkedOnce : Snapshot where
  dags := .ofList [(⟨5⟩, .checkedTable)]
  results := [{ id := ⟨7⟩, dag := ⟨5⟩, created := ⟨0⟩ }]

/-- What a page shows of it before anything is fetched. -/
def checkedPage (epoch : UInt64) : Store where
  workflow := some ⟨6⟩
  status := .succeeded
  dags := checkedOnce.dags
  results := checkedOnce.results
  selectedIndex := some 0
  activeDagId := some ⟨5⟩
  epoch := ⟨epoch⟩

end DagConsole.Session
