import DagConsole.Proofs.Store.Delivery
import DagConsole.Proofs.Store.InFlight

/-! Requests that a newer one for the same target joins within an epoch. Their handles are the same, so the store
cannot tell whose answer it is given: it shows the last one to arrive, which is the newest request's own only if no
older one comes after it. -/
namespace DagConsole.Store

/-- The request for a target that an answer is for: the newest one, or one that was begun before it. -/
inductive Age where
  | older
  | newest
deriving DecidableEq

/-- What is due from answers that have arrived, latest first: what the newest request was answered, and nothing until
then. -/
def due {α : Type} (arrivals : List (Age × Loadable α)) : Loadable α :=
  ((arrivals.find? fun arrival => arrival.1 = .newest).map Prod.snd).getD .loading

namespace History

/-- What has been answered, latest first, to requests of the current epoch for a target since the newest of them was
begun. The store is not told which of the requests an answer is for. -/
inductive Since : (target : Target) → History → List (Age × Loadable target.Content) → Prop where
  | begun {h : History} {step : Step} {handle : Handle} (reached : h.Reachable fun _ _ => True)
      (asked : handle ∈ step.handles h.store) (kind : handle.target ≠ .workflow) :
      Since handle.target (h.after step) []
  | arrives {h : History} {handle : Handle} {arrivals : List (Age × Loadable handle.target.Content)}
      (earlier : Since handle.target h arrivals) (given : handle ∈ h.handles)
      (current : handle.epoch = h.store.epoch) (age : Age) (answer : handle.request.Answer)
      (preferred : Option DagResultId) :
      Since handle.target (h.after (.deliver handle answer preferred)) ((age, handle.content answer) :: arrivals)
  | other {target : Target} {h : History} {arrivals : List (Age × Loadable target.Content)} {step : Step}
      (earlier : Since target h arrivals) (stays : ¬Replaces h.store step)
      (unasked : ∀ handle ∈ step.handles h.store, handle.target ≠ target)
      (unanswered : ∀ handle ∈ step.handle?, ¬handle.Requests h.store.epoch target) :
      Since target (h.after step) arrivals

variable {h : History} {target : Target} {arrivals : List (Age × Loadable target.Content)} {step : Step}

theorem Since.reachable (since : Since target h arrivals) : h.Reachable fun _ _ => True := by
  induction since with
  | begun reached _ _ => exact .step reached trivial
  | arrives _ _ _ _ _ _ ih => exact .step ih trivial
  | other _ _ _ _ ih => exact .step ih trivial

theorem Since.kind (since : Since target h arrivals) : target ≠ .workflow := by
  induction since with
  | begun _ _ kind => exact kind
  | arrives _ _ _ _ _ _ ih => exact ih
  | other _ _ _ _ ih => exact ih

/-- The handles of two requests of the current epoch for a target are the same. -/
theorem Timely.alike (timely : h.Timely) {older newest : Handle} (kind : target ≠ .workflow)
    (given : older ∈ h.handles) (requests : older.Requests h.store.epoch target)
    (otherGiven : newest ∈ h.handles) (otherRequests : newest.Requests h.store.epoch target) : older = newest := by
  have fits := timely.fits older given requests.1
  have otherFits := timely.fits newest otherGiven otherRequests.1
  have same : older.target = newest.target := requests.2.trans otherRequests.2.symm
  cases node : older.target.isNode with
  | true => exact eq_of_wants (wants_of_fits requests.1 fits) (wants_of_fits otherRequests.1 otherFits) same node
  | false =>
    cases older with
    | workflow _ _ => exact absurd requests.2.symm kind
    | artifact _ _ | operator _ _ => cases node
    | layout epoch dag =>
      cases newest with
      | workflow _ _ | artifact _ _ | operator _ _ => cases same
      | layout otherEpoch otherDag =>
        obtain rfl : epoch = otherEpoch := requests.1.trans otherRequests.1.symm
        obtain rfl : dag = otherDag := Option.some.inj (fits.symm.trans otherFits)
        rfl

/-- A request for a target empties its slot. -/
theorem loading_of_asked {s : Store} {handle : Handle} (asked : handle ∈ step.handles s)
    (kind : handle.target ≠ .workflow) : (step.next s).slot handle.target = .loading := by
  rcases replaces_or_keeps s step with replaces | keeps
  · exact absurd (replaces.target_of_given asked) kind
  · cases keeps.slots handle.target with
    | kept _ unasked _ => exact absurd rfl (unasked handle asked)
    | started loading _ _ _ _ => exact loading
    | settled used _ _ _ =>
      rw [Step.handles_of_used used] at asked
      cases asked

/-- What neither starts nor answers a request for a target leaves its slot as it is. -/
theorem slot_of_other {s : Store} (stays : ¬Replaces s step) (unasked : ∀ handle ∈ step.handles s, handle.target ≠ target)
    (unanswered : ∀ handle ∈ step.handle?, ¬handle.Requests s.epoch target) :
    (step.next s).slot target = s.slot target := by
  cases ((replaces_or_keeps s step).resolve_left stays).slots target with
  | kept same _ _ => exact same
  | started _ once _ _ _ =>
    have asked : 0 < (step.handles s).countP fun handle => handle.target = target := once ▸ Nat.one_pos
    obtain ⟨handle, given, same⟩ := List.countP_pos_iff.mp asked
    exact absurd (of_decide_eq_true same) (unasked handle given)
  | @settled handle used wanted written _ => exact absurd ⟨epoch_of_wants wanted, written⟩ (unanswered handle used)

/-- The slot of a target shows the answer that arrived last, whichever request it is for. -/
theorem Since.slot (since : Since target h arrivals) (bounded : h.epochs < UInt64.size) :
    h.store.slot target = (arrivals.head?.map Prod.snd).getD .loading := by
  induction since with
  | begun _ asked kind => exact loading_of_asked asked kind
  | @arrives h handle arrivals earlier given current age answer preferred ih =>
    have timely := earlier.reachable.timely (epochs_lt_of_after bounded)
    have wanted := wants_of_fits current (timely.fits handle given current)
    have written : (h.after (.deliver handle answer preferred)).store = h.store.put handle.target (handle.content answer) := by
      rw [store_after, Step.next, deliver_eq_put earlier.kind wanted]
    rw [written, slot_put_self]
    rfl
  | other _ stays unasked unanswered ih =>
    rw [store_after, slot_of_other stays unasked unanswered]
    exact ih (epochs_lt_of_after bounded)

/-- What is due is shown as long as no answer to an older request comes last; one that does is shown in its place.
The handles of the requests do not tell them apart. -/
theorem shows_last_arrival (since : Since target h arrivals) (bounded : h.epochs < UInt64.size) :
    h.store.slot target = (arrivals.head?.map Prod.snd).getD .loading ∧
      ((∀ arrival ∈ arrivals.head?, arrival.1 = .newest) → h.store.slot target = due arrivals) ∧
      ∀ older ∈ h.handles, ∀ newest ∈ h.handles, older.Requests h.store.epoch target →
        newest.Requests h.store.epoch target → older = newest := by
  have shown := since.slot bounded
  refine ⟨shown, fun latest => ?_, ?_⟩
  · rw [shown]
    cases arrivals with
    | nil => rfl
    | cons arrival rest =>
      have newest : arrival.1 = .newest := latest arrival rfl
      simp [due, newest]
  · intro older given newest otherGiven requests otherRequests
    exact (since.reachable.timely bounded).alike since.kind given requests otherGiven otherRequests

/-- The layout is asked for again, twice. -/
def relaid : History := (opened.after .beginLayout).after .beginLayout

theorem since_relaid : relaid.Since (Handle.layout ⟨3⟩ Dag.checkedTable).target [] := by
  have reached : (opened.after .beginLayout).Reachable fun _ _ => True :=
    .step (reachable_opened fun _ _ => trivial) trivial
  have asked : .layout ⟨3⟩ Dag.checkedTable ∈ Step.handles .beginLayout (opened.after .beginLayout).store :=
    List.mem_singleton.mpr rfl
  exact .begun reached asked nofun

/-- The older of two requests fails, and is answered first. -/
theorem shows_last_arrival_relaid :
    let handle : Handle := .layout ⟨3⟩ Dag.checkedTable
    let late : Outcome Layout := .error (.invalidInput "late")
    let h := (relaid.after (.deliver handle late none)).after (.deliver handle (.ok {}) none)
    let arrivals : List (Age × Loadable Layout) := [(.newest, .ofOutcome (.ok {})), (.older, .ofOutcome late)]
    h.Since .layout arrivals ∧ h.epochs < UInt64.size ∧ h.store.layout = .succeeded {} ∧
      h.store.slot .layout = due arrivals := by
  intro handle late h arrivals
  have failed : (relaid.after (.deliver handle late none)).Since handle.target [(.older, .ofOutcome late)] :=
    .arrives since_relaid List.mem_cons_self rfl .older late none
  have since : h.Since .layout arrivals := failed.arrives List.mem_cons_self rfl .newest (.ok {}) none
  have bounded : h.epochs < UInt64.size := by decide
  exact ⟨since, bounded, rfl, (shows_last_arrival since bounded).2.1 fun arrival latest => by cases latest; rfl⟩

/-- An answer to the older request is shown while the newer one is pending, and in place of the answer to the newer one
if it comes after that. -/
theorem older_answer_shown :
    let handle : Handle := .layout ⟨3⟩ Dag.checkedTable
    let late : Outcome Layout := .error (.invalidInput "late")
    let early := relaid.after (.deliver handle late none)
    let settled := (relaid.after (.deliver handle (.ok {}) none)).after (.deliver handle late none)
    handle ∈ (opened.after .beginLayout).inFlight ∧
      early.Since .layout [(.older, .ofOutcome late)] ∧ early.store.layout ≠ due [(.older, .ofOutcome late)] ∧
      settled.Since .layout [(.older, .ofOutcome late), (.newest, .ofOutcome (.ok {}))] ∧
      settled.store.layout ≠ due [(.older, .ofOutcome late), (.newest, .ofOutcome (.ok {}))] := by
  intro handle late early settled
  have loaded : (relaid.after (.deliver handle (.ok {}) none)).Since handle.target [(.newest, .ofOutcome (.ok {}))] :=
    .arrives since_relaid List.mem_cons_self rfl .newest (.ok {}) none
  refine ⟨?_, ?_, nofun, ?_, nofun⟩
  · exact mem_unused_of_asked (le_of_eq rfl) rfl List.mem_cons_self
  · exact since_relaid.arrives List.mem_cons_self rfl .older late none
  · exact loaded.arrives List.mem_cons_self rfl .older late none

end History

end DagConsole.Store
