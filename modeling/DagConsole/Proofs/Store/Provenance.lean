import DagConsole.Proofs.Store.History

/-! Where the values come from that a store shows. Each was answered for what is selected now: whatever changes
the selection empties the slots and starts a new epoch. -/
namespace DagConsole.Store

variable {s t : Store} {step : Step}

namespace Effect

/-- The value of an artifact was there on the same page, or has just been delivered for the selected run. -/
theorem artifact_value {id : ArtifactId} {result : ArtifactResult} (effect : Effect s step t)
    (found : t.artifactResults.find? id = some (.succeeded result)) : SamePage s t ∧
      (s.artifactResults.find? id = some (.succeeded result) ∨ ∃ ticket preferred,
        step = .deliver (.artifact ticket id) (.ok result) preferred ∧ s.accepts ticket) := by
  cases effect with
  | stay => exact ⟨.refl s, .inl found⟩
  | mark marking =>
    refine ⟨marking.same, .inl ?_⟩
    rcases marking.artifacts found with earlier | ⟨loading, _⟩
    · exact earlier
    · cases loading
  | @artifact ticket _ answer preferred accepted =>
    refine ⟨⟨rfl, rfl, rfl, rfl, rfl, rfl⟩, ?_⟩
    rcases FinMap.find?_insert_cases found with ⟨rfl, delivered⟩ | ⟨_, earlier⟩
    · obtain rfl := Loadable.ofOutcome_eq_succeeded_iff.mp delivered.symm
      exact .inr ⟨ticket, preferred, rfl, accepted⟩
    · exact .inl earlier
  | waitForLayout _ | refuse _ | operator _ | layout | clickNode _ | clickPane =>
    exact ⟨⟨rfl, rfl, rfl, rfl, rfl, rfl⟩, .inl found⟩
  | teardown | beginWorkflow _ | selectResult _ _ | load _ _ => cases found

/-- So was the value of an operator. -/
theorem operator_value {id : OperatorId} {result : OperatorResult} (effect : Effect s step t)
    (found : t.operatorResults.find? id = some (.succeeded result)) : SamePage s t ∧
      (s.operatorResults.find? id = some (.succeeded result) ∨ ∃ ticket preferred,
        step = .deliver (.operator ticket id) (.ok result) preferred ∧ s.accepts ticket) := by
  cases effect with
  | stay => exact ⟨.refl s, .inl found⟩
  | mark marking =>
    refine ⟨marking.same, .inl ?_⟩
    rcases marking.operators found with earlier | ⟨loading, _⟩
    · exact earlier
    · cases loading
  | @operator ticket _ answer preferred accepted =>
    refine ⟨⟨rfl, rfl, rfl, rfl, rfl, rfl⟩, ?_⟩
    rcases FinMap.find?_insert_cases found with ⟨rfl, delivered⟩ | ⟨_, earlier⟩
    · obtain rfl := Loadable.ofOutcome_eq_succeeded_iff.mp delivered.symm
      exact .inr ⟨ticket, preferred, rfl, accepted⟩
    · exact .inl earlier
  | waitForLayout _ | refuse _ | artifact _ | layout | clickNode _ | clickPane =>
    exact ⟨⟨rfl, rfl, rfl, rfl, rfl, rfl⟩, .inl found⟩
  | teardown | beginWorkflow _ | selectResult _ _ | load _ _ => cases found

/-- And so was the layout, delivered in the current epoch. -/
theorem layout_value {layout : Layout} (effect : Effect s step t) (found : t.layout = .succeeded layout) :
    SamePage s t ∧ (s.layout = .succeeded layout ∨ ∃ dag preferred,
      step = .deliver (.layout s.epoch dag) (.ok layout) preferred) := by
  cases effect with
  | stay => exact ⟨.refl s, .inl found⟩
  | mark marking => exact ⟨marking.same, .inl (marking.layout.symm.trans found)⟩
  | @layout dag answer preferred =>
    obtain rfl := Loadable.ofOutcome_eq_succeeded_iff.mp found
    exact ⟨⟨rfl, rfl, rfl, rfl, rfl, rfl⟩, .inr ⟨dag, preferred, rfl⟩⟩
  | refuse _ | artifact _ | operator _ | clickNode _ | clickPane =>
    exact ⟨⟨rfl, rfl, rfl, rfl, rfl, rfl⟩, .inl found⟩
  | waitForLayout _ | teardown | beginWorkflow _ | selectResult _ _ | load _ _ => cases found

/-- The versions and runs were there with the same workflow, unless there are none or a step loads them. -/
theorem snapshot_shown (effect : Effect s step t) :
    (t.dags = .empty ∧ t.results = []) ∨
      (t.workflow = s.workflow ∧ ((t.dags = s.dags ∧ t.results = s.results) ∨ ∃ snapshot,
        step.Loads s snapshot ∧ t.dags = snapshot.dags ∧ t.results = snapshot.newestFirst)) := by
  cases effect with
  | stay => exact .inr ⟨rfl, .inl ⟨rfl, rfl⟩⟩
  | mark marking => exact .inr ⟨marking.same.workflow, .inl ⟨marking.same.dags, marking.same.results⟩⟩
  | waitForLayout _ | refuse _ | artifact _ | operator _ | layout | clickNode _ | clickPane
  | selectResult _ _ => exact .inr ⟨rfl, .inl ⟨rfl, rfl⟩⟩
  | teardown | beginWorkflow _ => exact .inl ⟨rfl, rfl⟩
  | @load _ snapshot _ loads => exact .inr ⟨rfl, .inr ⟨snapshot, loads, rfl, rfl⟩⟩

end Effect

/-- Whether a step loads a snapshot without having asked for it. -/
def Step.isDirectLoad : Step → Bool
  | .loadWorkflow _ _ => true
  | _ => false

theorem Step.Loads.delivered {snapshot : Snapshot} (loads : step.Loads s snapshot)
    (asked : step.isDirectLoad = false) :
    ∃ id preferred, step = .deliver (.workflow s.epoch id) (.ok snapshot) preferred := by
  obtain ⟨brings, _, current⟩ := loads
  cases step with
  | deliver handle answer preferred =>
    cases handle with
    | workflow epoch id =>
      cases answer with
      | ok delivered =>
        cases brings
        obtain rfl : epoch = s.epoch := current _ rfl
        exact ⟨id, preferred, rfl⟩
      | error _ => cases brings
    | _ => cases brings
  | loadWorkflow _ _ => cases asked
  | _ => cases brings

/-- What is shown was answered for what is selected now. -/
structure ShowsSelected (h : History) : Prop where
  artifacts : ∀ {id result}, h.store.artifactResults.find? id = some (.succeeded result) →
    ∃ run, h.store.selectedResult = some run ∧ h.Answered (.getArtifactResult run.id id) (.ok result)
  operators : ∀ {id result}, h.store.operatorResults.find? id = some (.succeeded result) →
    ∃ run, h.store.selectedResult = some run ∧ h.Answered (.getOperatorResult run.id id) (.ok result)
  layout : ∀ {layout}, h.store.layout = .succeeded layout →
    ∃ dag epoch, h.store.activeDag = some dag ∧ h.Delivered (.layout epoch dag) (.ok layout)
  snapshot : h.store.dags ≠ .empty ∨ h.store.results ≠ [] → ∃ id snapshot,
    h.store.workflow = some id ∧ h.Answered (.getWorkflow id) (.ok snapshot) ∧
      h.store.dags = snapshot.dags ∧ h.store.results = snapshot.newestFirst

/-- Answers are written with handles that were given out, and nothing else is loaded. -/
structure Asked (h : History) (step : Step) : Prop where
  held : h.Held step
  asked : step.isDirectLoad = false

variable {h : History}

theorem ShowsSelected.after (shows : ShowsSelected h) (timely : h.Timely) (asked : Asked h step) :
    ShowsSelected (h.after step) := by
  obtain ⟨held, asked⟩ := asked
  have effect : Effect h.store step (h.after step).store := effect step h.store
  refine ⟨?_, ?_, ?_, ?_⟩
  · intro id result found
    obtain ⟨same, earlier | ⟨ticket, preferred, rfl, accepted⟩⟩ := effect.artifact_value found
    · obtain ⟨run, selected, answered⟩ := shows.artifacts earlier
      exact ⟨run, same.selectedResult.trans selected, answered.after step⟩
    · obtain ⟨run, selected, ran⟩ := Option.map_eq_some_iff.mp (accepts_iff.mp accepted).2
      refine ⟨run, same.selectedResult.trans selected, ?_⟩
      rw [ran]
      exact .delivered (.now preferred (held _ rfl))
  · intro id result found
    obtain ⟨same, earlier | ⟨ticket, preferred, rfl, accepted⟩⟩ := effect.operator_value found
    · obtain ⟨run, selected, answered⟩ := shows.operators earlier
      exact ⟨run, same.selectedResult.trans selected, answered.after step⟩
    · obtain ⟨run, selected, ran⟩ := Option.map_eq_some_iff.mp (accepts_iff.mp accepted).2
      refine ⟨run, same.selectedResult.trans selected, ?_⟩
      rw [ran]
      exact .delivered (.now preferred (held _ rfl))
  · intro layout found
    obtain ⟨same, earlier | ⟨dag, preferred, rfl⟩⟩ := effect.layout_value found
    · obtain ⟨dag, epoch, active, delivered⟩ := shows.layout earlier
      exact ⟨dag, epoch, same.activeDag.trans active, delivered.after step⟩
    · have fits := timely.fits (.layout h.store.epoch dag) (held _ rfl) rfl
      exact ⟨dag, _, same.activeDag.trans fits, .now preferred (held _ rfl)⟩
  · intro filled
    obtain ⟨noDags, noResults⟩ | ⟨workflow, ⟨dags, results⟩ | ⟨snapshot, loads, dags, results⟩⟩ :=
      effect.snapshot_shown
    · rcases filled with some | some
      · exact absurd noDags some
      · exact absurd noResults some
    · rw [dags, results] at filled
      obtain ⟨id, snapshot, shown, answered, sameDags, sameResults⟩ := shows.snapshot filled
      exact ⟨id, snapshot, workflow.trans shown, answered.after step, dags.trans sameDags,
        results.trans sameResults⟩
    · obtain ⟨id, preferred, rfl⟩ := loads.delivered asked
      have fits := timely.fits (.workflow h.store.epoch id) (held _ rfl) rfl
      exact ⟨id, snapshot, workflow.trans fits, .delivered (.now preferred (held _ rfl)), dags, results⟩

/-- However steps and answers follow each other, nothing is shown that was not answered for what is selected. -/
theorem shows_selected_of_reachable (reached : h.Reachable Asked) (bounded : h.epochs < UInt64.size) :
    ShowsSelected h := by
  have start : ShowsSelected .start := by
    refine ⟨nofun, nofun, nofun, ?_⟩
    intro filled
    rcases filled with some | some
    · exact absurd rfl some
    · exact absurd rfl some
  apply reached.invariant bounded ShowsSelected start
  intro h step timely asked shows
  exact shows.after timely asked

theorem shows_selected_opened : History.opened.Reachable Asked ∧ History.opened.epochs < UInt64.size ∧
    History.opened.store.artifactResults.find? ⟨4⟩ = some (.succeeded (.ofContent .bool .json "true")) ∧
    History.opened.Answered (.getArtifactResult ⟨7⟩ ⟨4⟩) (.ok (.ofContent .bool .json "true")) := by
  have asked : ∀ step ∈ History.opened.steps, step.isDirectLoad = false := by decide
  have reached : History.opened.Reachable Asked :=
    History.reachable_opened fun member held => ⟨held, asked _ member⟩
  have found : History.opened.store.artifactResults.find? ⟨4⟩ =
    some (.succeeded (.ofContent .bool .json "true")) := rfl
  obtain ⟨run, selected, answered⟩ := (shows_selected_of_reachable reached (by decide)).artifacts found
  cases selected
  exact ⟨reached, by decide, found, answered⟩

end DagConsole.Store
