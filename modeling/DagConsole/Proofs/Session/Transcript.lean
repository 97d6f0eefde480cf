import DagConsole.Proofs.Session.Overtaking

/-! Transcripts: what an operation that runs alone asks of the platform, request by request, with the answers. The
platform may answer anything, and answers to fetches made together may come in any order. -/
namespace DagConsole

/-- A request with the answer that it got. -/
structure Inquiry where
  request : Request
  answer : request.Answer

/-- What a reply answers, and how. -/
def Reply.inquiry : Reply → Inquiry
  | .artifact ticket id answer => ⟨.getArtifactResult ticket.run id, answer⟩
  | .operator ticket id answer => ⟨.getOperatorResult ticket.run id, answer⟩

/-- The last answer to a request in a transcript. -/
def LastAnswer (log : List Inquiry) (request : Request) (answer : request.Answer) : Prop :=
  ∃ earlier later, log = earlier ++ ⟨request, answer⟩ :: later ∧ ∀ inquiry ∈ later, inquiry.request ≠ request

namespace LastAnswer

variable {log more : List Inquiry} {request : Request} {answer : request.Answer}

/-- It stays the last one until the request is made again. -/
theorem append (last : LastAnswer log request answer) (absent : ∀ inquiry ∈ more, inquiry.request ≠ request) :
    LastAnswer (log ++ more) request answer := by
  obtain ⟨earlier, later, rfl, none⟩ := last
  exact ⟨earlier, later ++ more, by simp, List.forall_mem_append.mpr ⟨none, absent⟩⟩

/-- Where no request is made twice, each answer is the last one. -/
theorem of_mem (log : List Inquiry) (distinct : (more.map Inquiry.request).Nodup)
    (member : ⟨request, answer⟩ ∈ more) : LastAnswer (log ++ more) request answer := by
  obtain ⟨earlier, later, rfl⟩ := List.append_of_mem member
  refine ⟨log ++ earlier, later, by simp, fun inquiry after same => ?_⟩
  rw [List.map_append, List.map_cons] at distinct
  obtain ⟨fresh, _⟩ := List.nodup_cons.mp (List.nodup_append.mp distinct).2.1
  exact fresh (List.mem_map.mpr ⟨inquiry, after, same⟩)

end LastAnswer

namespace Operation

variable {α β ε : Type}

/-- A run of an operation on a store: what it asks, how it ends, and the store that it leaves. -/
inductive Runs : Operation α → Store → List Inquiry → α → Store → Prop where
  | done {value : α} {s : Store} : Runs (.done value) s [] value s
  | act {change : Store → Store} {next : Store → Operation α} {s t : Store} {log : List Inquiry} {value : α}
      (rest : Runs (next s) (change s) log value t) : Runs (.act change next) s log value t
  | ask {request : Request} {next : request.Answer → Operation α} {s t : Store} {log : List Inquiry} {value : α}
      (answer : request.Answer) (rest : Runs (next answer) s log value t) :
      Runs (.ask request next) s (⟨request, answer⟩ :: log) value t
  | fetchAll {fetches : List NodeFetch} {next : Nat → Operation α} {s t : Store} {log : List Inquiry} {value : α}
      (replies : List Reply) (awaited : (replies.map Reply.fetch).Perm fetches)
      (rest : Runs (next (s.applyReplies replies).1) (s.applyReplies replies).2 log value t) :
      Runs (.fetchAll fetches next) s (replies.map Reply.inquiry ++ log) value t

/-- What an operation asks of a platform. -/
def transcript {σ : Type} (p : Platform σ) : Operation α → Store → σ → List Inquiry
  | .done _, _, _ => []
  | .act change next, s, x => (next s).transcript p (change s) x
  | .ask request next, s, x =>
    let (answer, x) := p.answer request x
    ⟨request, answer⟩ :: (next answer).transcript p s x
  | .fetchAll fetches next, s, x =>
    let (replies, x) := p.replies x fetches
    let (count, s) := s.applyReplies replies
    replies.map Reply.inquiry ++ (next count).transcript p s x

theorem fetches_replies {σ : Type} (p : Platform σ) (fetches : List NodeFetch) (x : σ) :
    (p.replies x fetches).1.map Reply.fetch = fetches := by
  induction fetches generalizing x with
  | nil => rfl
  | cons fetch rest ih =>
    have own : (p.reply x fetch).1.fetch = fetch := by cases fetch <;> rfl
    simp only [Platform.replies, List.map_cons, own, ih]

/-- Against any platform, an operation comes to an end in one of its runs. -/
theorem runs_run {σ : Type} (p : Platform σ) (op : Operation α) (s : Store) (x : σ) :
    op.Runs s (op.transcript p s x) (op.run p s x).1 (op.run p s x).2.1 := by
  induction op generalizing s x with
  | done value => exact .done
  | act change next ih => exact .act (ih s (change s) x)
  | ask request next ih => exact .ask _ (ih _ s _)
  | fetchAll fetches next ih =>
    exact .fetchAll _ (by rw [fetches_replies]) (ih _ _ _)

section Parts

variable {s t : Store} {log : List Inquiry}

theorem runs_done {value result : α} :
    (done value).Runs s log result t ↔ log = [] ∧ result = value ∧ t = s := by
  constructor
  · intro ran
    cases ran
    exact ⟨rfl, rfl, rfl⟩
  · rintro ⟨rfl, rfl, rfl⟩
    exact .done

theorem runs_act {change : Store → Store} {next : Store → Operation α} {value : α} :
    (act change next).Runs s log value t ↔ (next s).Runs (change s) log value t := by
  constructor
  · intro ran
    cases ran with
    | act rest => exact rest
  · exact .act

theorem runs_ask {request : Request} {next : request.Answer → Operation α} {value : α} :
    (ask request next).Runs s log value t ↔
      ∃ answer rest, log = ⟨request, answer⟩ :: rest ∧ (next answer).Runs s rest value t := by
  constructor
  · intro ran
    cases ran with
    | ask answer rest => exact ⟨answer, _, rfl, rest⟩
  · rintro ⟨answer, rest, rfl, ran⟩
    exact .ask answer ran

theorem runs_fetchAll {fetches : List NodeFetch} {next : Nat → Operation α} {value : α} :
    (fetchAll fetches next).Runs s log value t ↔ ∃ replies rest, (replies.map Reply.fetch).Perm fetches ∧
      log = replies.map Reply.inquiry ++ rest ∧
        (next (s.applyReplies replies).1).Runs (s.applyReplies replies).2 rest value t := by
  constructor
  · intro ran
    cases ran with
    | fetchAll replies awaited rest => exact ⟨replies, _, awaited, rfl, rest⟩
  · rintro ⟨replies, rest, awaited, rfl, ran⟩
    exact .fetchAll replies awaited ran

/-- One operation after another one asks what the two ask. -/
theorem runs_bind (op : Operation α) (next : α → Operation β) {value : β} :
    (op.bind next).Runs s log value t ↔ ∃ one a u other,
      op.Runs s one a u ∧ (next a).Runs u other value t ∧ log = one ++ other := by
  constructor
  · intro ran
    induction op generalizing s log with
    | done a => exact ⟨[], a, s, log, .done, ran, rfl⟩
    | act change rest ih =>
      obtain ⟨one, a, u, other, first, second, same⟩ := ih s (runs_act.mp ran)
      exact ⟨one, a, u, other, .act first, second, same⟩
    | ask request rest ih =>
      cases ran with
      | ask answer ran =>
        obtain ⟨one, a, u, other, first, second, rfl⟩ := ih answer ran
        exact ⟨_, a, u, other, .ask answer first, second, rfl⟩
    | fetchAll fetches rest ih =>
      cases ran with
      | fetchAll replies awaited ran =>
        obtain ⟨one, a, u, other, first, second, rfl⟩ := ih _ ran
        exact ⟨_, a, u, other, .fetchAll replies awaited first, second, (List.append_assoc ..).symm⟩
  · rintro ⟨one, a, u, other, first, second, rfl⟩
    induction first with
    | done => exact second
    | act _ ih => exact .act (ih second)
    | ask answer _ ih => exact .ask answer (ih second)
    | fetchAll replies awaited _ ih =>
      rw [List.append_assoc]
      exact .fetchAll replies awaited (ih second)

/-- An action that may fail goes on only if it has not failed. -/
theorem runs_except_bind {action : ExceptT ε Operation α} {next : α → ExceptT ε Operation β}
    {value : Except ε β} : (action >>= next).run.Runs s log value t ↔
      (∃ e, action.run.Runs s log (.error e) t ∧ value = .error e) ∨
        ∃ one a u other, action.run.Runs s one (.ok a) u ∧ (next a).run.Runs u other value t ∧
          log = one ++ other := by
  refine Iff.trans (runs_bind action.run (ExceptT.bindCont next)) ?_
  constructor
  · rintro ⟨one, outcome, u, other, first, second, rfl⟩
    cases outcome with
    | error e =>
      obtain ⟨rfl, rfl, rfl⟩ := runs_done.mp second
      exact .inl ⟨e, by rwa [List.append_nil], rfl⟩
    | ok a => exact .inr ⟨one, a, u, other, first, second, rfl⟩
  · rintro (⟨e, first, rfl⟩ | ⟨one, a, u, other, first, second, rfl⟩)
    · exact ⟨log, .error e, t, [], first, .done, (List.append_nil log).symm⟩
    · exact ⟨one, .ok a, u, other, first, second, rfl⟩

theorem runs_lift {op : Operation α} {value : Except ε α} :
    (ExceptT.lift op : ExceptT ε Operation α).run.Runs s log value t ↔ ∃ a, op.Runs s log a t ∧ value = .ok a := by
  refine Iff.trans (runs_bind op fun a => .done (Except.ok a)) ?_
  constructor
  · rintro ⟨one, a, u, other, first, second, rfl⟩
    obtain ⟨rfl, rfl, rfl⟩ := runs_done.mp second
    exact ⟨a, by rwa [List.append_nil], rfl⟩
  · rintro ⟨a, first, rfl⟩
    exact ⟨log, a, t, [], first, .done, (List.append_nil log).symm⟩

/-- A step on the store that may fail asks nothing. -/
theorem runs_attempt_bind {step : Store → Outcome α × Store} {next : α → Action β} {value : Outcome β} :
    (Action.attempt step >>= next).run.Runs s log value t ↔
      (∃ e, (step s).1 = .error e ∧ log = [] ∧ value = .error e ∧ t = (step s).2) ∨
        ∃ a, (step s).1 = .ok a ∧ (next a).run.Runs (step s).2 log value t := by
  change (act (fun s => (step s).2) fun s => ExceptT.bindCont next (step s).1).Runs s log value t ↔ _
  rw [runs_act]
  cases (step s).1 with
  | error e => simp [ExceptT.bindCont, pure, runs_done]
  | ok a => simp [ExceptT.bindCont, ExceptT.run]

theorem runs_attempt {step : Store → Outcome α × Store} {value : Outcome α} :
    (Action.attempt step).run.Runs s log value t ↔ log = [] ∧ value = (step s).1 ∧ t = (step s).2 :=
  Iff.trans runs_act runs_done

/-- Nor does one that cannot fail. -/
theorem runs_access_bind {step : Store → α × Store} {next : α → Action β} {value : Outcome β} :
    (Action.access step >>= next).run.Runs s log value t ↔ (next (step s).1).run.Runs (step s).2 log value t := by
  change (act (fun s => (step s).2) fun s => (next (step s).1).run).Runs s log value t ↔ _
  exact runs_act

theorem runs_access {step : Store → α × Store} {value : Outcome α} :
    (Action.access step).run.Runs s log value t ↔ log = [] ∧ value = .ok (step s).1 ∧ t = (step s).2 := by
  change (act (fun s => (step s).2) fun s => done (.ok (step s).1)).Runs s log value t ↔ _
  exact Iff.trans runs_act runs_done

theorem runs_discard {action : ExceptT ε Operation α} {value : Except ε Unit} :
    (Functor.discard action).run.Runs s log value t ↔
      ∃ outcome, action.run.Runs s log outcome t ∧ value = outcome.map fun _ => () := by
  refine Iff.trans (runs_bind action.run _) ?_
  constructor
  · rintro ⟨one, outcome, u, other, first, second, rfl⟩
    refine ⟨outcome, ?_⟩
    cases outcome with
    | error e =>
      obtain ⟨rfl, rfl, rfl⟩ := runs_done.mp second
      exact ⟨by rwa [List.append_nil], rfl⟩
    | ok a =>
      obtain ⟨rfl, rfl, rfl⟩ := runs_done.mp second
      exact ⟨by rwa [List.append_nil], rfl⟩
  · rintro ⟨outcome, first, rfl⟩
    refine ⟨log, outcome, t, [], first, ?_, (List.append_nil log).symm⟩
    cases outcome <;> exact .done

theorem runs_adapt {ε' : Type} {action : ExceptT ε Operation α} {f : ε → ε'} {value : Except ε' α} :
    (action.adapt f).run.Runs s log value t ↔
      ∃ outcome, action.run.Runs s log outcome t ∧ value = outcome.mapError f := by
  refine Iff.trans (runs_bind action.run fun outcome => .done (outcome.mapError f)) ?_
  constructor
  · rintro ⟨one, outcome, u, other, first, second, rfl⟩
    obtain ⟨rfl, rfl, rfl⟩ := runs_done.mp second
    exact ⟨outcome, by rwa [List.append_nil], rfl⟩
  · rintro ⟨outcome, first, rfl⟩
    exact ⟨log, outcome, t, [], first, .done, (List.append_nil log).symm⟩

end Parts

/-- All that an operation may ever ask is of some sort. -/
def Asks (sort : Request → Prop) : Operation α → Prop
  | .done _ => True
  | .act _ next => ∀ s, (next s).Asks sort
  | .ask request next => sort request ∧ ∀ answer, (next answer).Asks sort
  | .fetchAll fetches next => (∀ fetch ∈ fetches, sort (Store.Handle.ofFetch fetch).request) ∧
      ∀ count, (next count).Asks sort

variable {sort : Request → Prop} {op : Operation α}

theorem Asks.bind {next : α → Operation β} (first : op.Asks sort) (second : ∀ a, (next a).Asks sort) :
    (op.bind next).Asks sort := by
  induction op with
  | done a => exact second a
  | act change rest ih => exact fun s => ih s (first s)
  | ask request rest ih => exact ⟨first.1, fun answer => ih answer (first.2 answer)⟩
  | fetchAll fetches rest ih => exact ⟨first.1, fun count => ih count (first.2 count)⟩

theorem Asks.except_bind {action : ExceptT ε Operation α} {next : α → ExceptT ε Operation β}
    (first : action.run.Asks sort) (second : ∀ a, (next a).run.Asks sort) : (action >>= next).run.Asks sort := by
  have sequel : ∀ outcome, (ExceptT.bindCont next outcome).Asks sort := by
    intro outcome
    cases outcome with
    | error e => exact trivial
    | ok a => exact second a
  exact Asks.bind first sequel

theorem Asks.discard {action : ExceptT ε Operation α} (asks : action.run.Asks sort) :
    (Functor.discard action).run.Asks sort := by
  refine Asks.bind asks fun outcome => ?_
  cases outcome <;> exact trivial

theorem Asks.lift (asks : op.Asks sort) : (ExceptT.lift op : ExceptT ε Operation α).run.Asks sort := by
  have wrapped : ∀ a, (Operation.done (Except.ok a : Except ε α)).Asks sort := fun _ => trivial
  exact Asks.bind asks wrapped

theorem Asks.adapt {ε' : Type} {action : ExceptT ε Operation α} (asks : action.run.Asks sort) (f : ε → ε') :
    (action.adapt f).run.Asks sort := by
  have adapted : ∀ outcome : Except ε α, (Operation.done (outcome.mapError f)).Asks sort := fun _ => trivial
  exact Asks.bind asks adapted

/-- What a run asks is what the operation may ask. -/
theorem Runs.asks {s t : Store} {log : List Inquiry} {value : α} (ran : op.Runs s log value t)
    (asks : op.Asks sort) : ∀ inquiry ∈ log, sort inquiry.request := by
  induction ran with
  | done => exact List.forall_mem_nil _
  | act _ ih => exact ih (asks _)
  | ask answer _ ih => exact List.forall_mem_cons.mpr ⟨asks.1, ih (asks.2 answer)⟩
  | fetchAll replies awaited _ ih =>
    refine List.forall_mem_append.mpr ⟨?_, ih (asks.2 _)⟩
    intro inquiry member
    obtain ⟨reply, sent, rfl⟩ := List.mem_map.mp member
    have made := asks.1 reply.fetch (awaited.mem_iff.mp (List.mem_map_of_mem sent))
    cases reply <;> exact made

end Operation

end DagConsole
