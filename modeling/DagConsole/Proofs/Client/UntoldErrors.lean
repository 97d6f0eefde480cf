import DagConsole.Proofs.Client.Classification

/-! Errors that are reported under a status of success. One that is told as a text is passed on. In any other form it
goes unseen: the answer counts as the one that it would be without its members `error`. -/
namespace DagConsole.Client

variable {diagnosis : Diagnosis} {request : Request} {status : Nat} {reason : Option String} {body : List UInt8}
  {members : List (String × Document)} {message : String}

/-- The members of an object that are not called `error`. -/
def others (members : List (String × Document)) : List (String × Document) :=
  members.filter fun member => !(member.1 == "error")

/-- A record without a field of that name is read in the same way without such members. -/
theorem fields_others {names : List String} (unknown : "error" ∉ names) :
    Decoder.fields names (.object (others members)) = Decoder.fields names (.object members) := by
  have same : (others members).filter (fun member => names.contains member.1) =
      members.filter fun member => names.contains member.1 := by
    rw [others, List.filter_filter]
    apply List.filter_congr
    intro member _
    by_cases error : member.1 = "error"
    · simp [error, unknown]
    · simp [error]
  simp only [Decoder.fields, same]

/-- No response has a field of that name. -/
theorem carries_others {response : request.Response} :
    Carries request (.object (others members)) response ↔ Carries request (.object members) response := by
  cases request with
  | getWorkflow => rw [Carries, Carries, Snapshot.decode, Snapshot.decode, fields_others (by decide)]
  | getArtifactResult => rw [Carries, Carries, ArtifactResult.decode, ArtifactResult.decode, fields_others (by decide)]
  | getOperatorResult => rw [Carries, Carries, OperatorResult.decode, OperatorResult.decode, fields_others (by decide)]
  | getPositions => rw [Carries, Carries, Layout.decode, Layout.decode, fields_others (by decide)]
  | triggerRun | editWorkflow | deleteWorkflow => rfl

theorem carries_of_mutating {doc : Document} {response : request.Response} (changes : request.isMutating) :
    Carries request doc response := by
  cases request with
  | getWorkflow | getArtifactResult | getOperatorResult | getPositions => cases changes
  | triggerRun | editWorkflow | deleteWorkflow => trivial

theorem bodyCarries_iff (spelled : Document.ofBytes? body = some (.object members)) {response : request.Response} :
    BodyCarries request body response ↔ Carries request (.object (others members)) response := by
  rw [carries_others]
  constructor
  · rintro (changes | ⟨doc, same, carried⟩)
    · exact carries_of_mutating changes
    · cases spelled.symm.trans same
      exact carried
  · intro carried
    exact .inr ⟨_, spelled, carried⟩

/-- An answer with an untold error succeeds exactly if its other members are the response. -/
theorem outcome_eq_ok_iff (succeeded : 200 ≤ status ∧ status < 300)
    (spelled : Document.ofBytes? body = some (.object members)) (untold : ∀ message, ¬Tells (.object members) message)
    {response : request.Response} :
    outcome diagnosis request status reason body = .ok response ↔ Carries request (.object (others members)) response := by
  rw [classified_iff, ← bodyCarries_iff spelled]
  constructor
  · intro classified
    cases classified with
    | response _ _ carried => exact carried
  · intro carried
    refine .response succeeded ?_ carried
    rintro message ⟨doc, same, told⟩
    cases spelled.symm.trans same
    exact untold message told

/-- Under a status of success, an object with an error that is neither null nor empty fails if the error is the one text
under that name, and then with this text. In every other form, such as an object with a message or two texts, the error
goes unseen: a request that changes something succeeds, and every other one does if the rest of the object is its
response. -/
theorem fails_iff_told (diagnosis : Diagnosis) (request : Request) (reason : Option String)
    (succeeded : 200 ≤ status ∧ status < 300)
    (spelled : Document.ofBytes? body = some (.object members))
    (error : ∃ value, ("error", value) ∈ members ∧ value ≠ .null ∧ value ≠ .string "") :
    (∀ message, ("error", .string message) ∈ members → (members.map Prod.fst).count "error" = 1 →
      outcome diagnosis request status reason body = .error ⟨.apiError, some message, none⟩) ∧
    ((∀ response, outcome diagnosis request status reason body ≠ .ok response) ↔
      (∃ message, ("error", .string message) ∈ members ∧ (members.map Prod.fst).count "error" = 1) ∨
        ∀ response, ¬Carries request (.object (others members)) response) ∧
    ∀ (c : ApiClient) wire sent, c.httpRequest request = .ok sent → wire sent = .answered status body →
      c.call wire request =
        outcome (c.diagnoses.body request body) request status (reasonPhrase? status) body := by
  have told : ∀ message, ("error", .string message) ∈ members → (members.map Prod.fst).count "error" = 1 →
      Tells (.object members) message := by
    intro message given once
    refine .member given once ?_
    rintro rfl
    obtain ⟨value, present, _, nonempty⟩ := error
    have only := filter_eq_singleton_iff.mpr ⟨given, once⟩
    have member : ("error", value) ∈ members.filter fun member => member.1 == "error" :=
      List.mem_filter.mpr ⟨present, beq_self_eq_true _⟩
    rw [only, List.mem_singleton, Prod.mk.injEq] at member
    exact nonempty member.2
  have fails : ∀ message, ("error", .string message) ∈ members → (members.map Prod.fst).count "error" = 1 →
      outcome diagnosis request status reason body = .error ⟨.apiError, some message, none⟩ := fun message given once =>
    classified_iff.mpr (.told succeeded ⟨_, spelled, told message given once⟩)
  refine ⟨fails, ?_, fun c wire sent asked answered => ApiClient.call_of_answered asked answered⟩
  by_cases text : ∃ message, ("error", .string message) ∈ members ∧ (members.map Prod.fst).count "error" = 1
  · obtain ⟨message, given, once⟩ := text
    rw [fails message given once]
    exact iff_of_true nofun (.inl ⟨message, given, once⟩)
  · have untold : ∀ message, ¬Tells (.object members) message := by
      rintro message ⟨given, once, _⟩
      exact text ⟨message, given, once⟩
    simp only [ne_eq, outcome_eq_ok_iff succeeded spelled untold, text, false_or]

/-- A body that tells why a workflow cannot be deleted, as a text. -/
def running : List UInt8 := "\x7b\"error\":\"workflow is running\"\x7d".toUTF8.data.toList

theorem ofBytes?_running : Document.ofBytes? running = some (.object [("error", .string "workflow is running")]) := rfl

/-- Neither a deletion nor the reading of a workflow succeeds with it. -/
theorem fails_iff_told_running :
    outcome default (.deleteWorkflow ⟨6⟩) 200 (some "OK") running = .error ⟨.apiError, some "workflow is running", none⟩ ∧
      ∀ response, outcome default (.getWorkflow ⟨6⟩) 200 (some "OK") running ≠ .ok response := by
  have error : ∃ value, ("error", value) ∈ [("error", Document.string "workflow is running")] ∧ value ≠ .null ∧
      value ≠ .string "" := ⟨_, List.mem_singleton_self _, nofun, by simp⟩
  have succeeded : 200 ≤ 200 ∧ 200 < 300 := by decide
  obtain ⟨deletes, _⟩ := fails_iff_told default (.deleteWorkflow ⟨6⟩) (some "OK") succeeded ofBytes?_running error
  obtain ⟨_, reads, _⟩ := fails_iff_told default (.getWorkflow ⟨6⟩) (some "OK") succeeded ofBytes?_running error
  have given : ("error", .string "workflow is running") ∈ [("error", Document.string "workflow is running")] :=
    List.mem_singleton_self _
  exact ⟨deletes _ given (by simp), reads.mpr (.inl ⟨_, given, by simp⟩)⟩

/-- The same body with the error as an object. -/
def runningStructured : List UInt8 :=
  "\x7b\"error\":\x7b\"message\":\"workflow is running\"\x7d\x7d".toUTF8.data.toList

theorem ofBytes?_runningStructured : Document.ofBytes? runningStructured =
    some (.object [("error", .object [("message", .string "workflow is running")])]) := rfl

/-- It counts as the success of every change, as a workflow without versions, as a layout without positions and as the
result of an operator in an unknown state. -/
theorem structured_error_unseen :
    Document.ofBytes? runningStructured =
        some (.object [("error", .object [("message", .string "workflow is running")])]) ∧
      outcome default (.triggerRun ⟨6⟩ .empty) 200 (some "OK") runningStructured = .ok () ∧
      outcome default (.editWorkflow ⟨6⟩ {}) 200 (some "OK") runningStructured = .ok () ∧
      outcome default (.deleteWorkflow ⟨6⟩) 200 (some "OK") runningStructured = .ok () ∧
      outcome default (.getWorkflow ⟨6⟩) 200 (some "OK") runningStructured = .ok {} ∧
      outcome default (.getPositions ⟨.empty, .empty⟩) 200 (some "OK") runningStructured = .ok {} ∧
      outcome default (.getOperatorResult ⟨7⟩ ⟨2⟩) 200 (some "OK") runningStructured = .ok {} := by
  have untold : ∀ message,
      ¬Tells (.object [("error", .object [("message", .string "workflow is running")])]) message := by
    rintro message ⟨given, _, _⟩
    simp at given
  have succeeds (request : Request) {response : request.Response} :
      outcome default request 200 (some "OK") runningStructured = .ok response ↔ Carries request (.object []) response :=
    outcome_eq_ok_iff (by decide) ofBytes?_runningStructured untold
  refine ⟨ofBytes?_runningStructured, ?_, ?_, ?_, ?_, ?_, ?_⟩
  · exact (succeeds _).mpr trivial
  · exact (succeeds _).mpr trivial
  · exact (succeeds _).mpr trivial
  · exact (succeeds (.getWorkflow ⟨6⟩)).mpr rfl
  · exact (succeeds (.getPositions _)).mpr rfl
  · exact (succeeds (.getOperatorResult _ _)).mpr rfl

end DagConsole.Client
