import DagConsole.Client.Basic
import DagConsole.Proofs.Json.Values

/-! What becomes of an answer. Its status tells success from failure, a text under `error` at the top of its body tells
an error under either, and only then is the body read as the response that was asked for. -/
namespace DagConsole

namespace Client

variable {diagnosis : Diagnosis} {request : Request} {status : Nat} {reason : Option String} {body : List UInt8}
  {doc : Document} {message : String}

/-- What the rest of the library learns of an answer, given what the JSON library tells of its body should that not be
the response. -/
def outcome (diagnosis : Diagnosis) (request : Request) (status : Nat) (reason : Option String) (body : List UInt8) :
    request.Answer :=
  (receive diagnosis request status reason body).mapError ClientError.toError

/-! ### What a body says -/

/-- A document that tells an error: a text that is not empty, as the one member `error` of an object, or as the only
item of a list. -/
inductive Tells : Document → String → Prop where
  | member {members : List (String × Document)} {message : String} (given : ("error", .string message) ∈ members)
      (once : (members.map Prod.fst).count "error" = 1) (nonempty : message ≠ "") : Tells (.object members) message
  | item {message : String} (nonempty : message ≠ "") : Tells (.array [.string message]) message

/-- A body tells an error if it spells a document that does. -/
def BodyTells (body : List UInt8) (message : String) : Prop :=
  ∃ doc, Document.ofBytes? body = some doc ∧ Tells doc message

/-- The response that a document is read as. A request that changes something has nothing to be read. -/
def Carries : (request : Request) → Document → request.Response → Prop
  | .getWorkflow _, doc, snapshot => Snapshot.decode doc = some snapshot
  | .getArtifactResult _ _, doc, result => ArtifactResult.decode doc = some result
  | .getOperatorResult _ _, doc, result => OperatorResult.decode doc = some result
  | .getPositions _, doc, layout => Layout.decode doc = some layout
  | .triggerRun _ _, _, _ | .editWorkflow _ _, _, _ | .deleteWorkflow _, _, _ => True

/-- The response that a body is read as; where there is none to read, it need not spell anything. -/
def BodyCarries (request : Request) (body : List UInt8) (response : request.Response) : Prop :=
  request.isMutating ∨ ∃ doc, Document.ofBytes? body = some doc ∧ Carries request doc response

/-- The kinds of error that the statuses of failure stand for. -/
inductive StandsFor : Nat → ErrorKind → Prop where
  | unauthorized : StandsFor 401 .authentication
  | forbidden : StandsFor 403 .authentication
  | notFound : StandsFor 404 .notFound
  | other {status : Nat} (unauthorized : status ≠ 401) (forbidden : status ≠ 403) (found : status ≠ 404) :
      StandsFor status .networkError

/-- What a failure is explained by: the body, else the phrase for the status, else nothing in particular. -/
inductive Explains (reason : Option String) (body : List UInt8) : String → Prop where
  | told {message : String} (told : BodyTells body message) : Explains reason body message
  | phrase {phrase : String} (silent : ∀ message, ¬BodyTells body message) (given : reason = some phrase) :
      Explains reason body phrase
  | unexplained (silent : ∀ message, ¬BodyTells body message) (missing : reason = none) :
      Explains reason body "request failed"

/-- The outcome of an answer, by its status and its body. -/
inductive Classified (diagnosis : Diagnosis) (request : Request) (status : Nat) (reason : Option String)
    (body : List UInt8) : request.Answer → Prop where
  | failure {kind : ErrorKind} {message : String} (failed : status < 200 ∨ 300 ≤ status)
      (stands : StandsFor status kind) (explained : Explains reason body message) :
      Classified diagnosis request status reason body (.error ⟨kind, some s!"HTTP {status}: {message}", none⟩)
  | told {message : String} (succeeded : 200 ≤ status ∧ status < 300) (told : BodyTells body message) :
      Classified diagnosis request status reason body (.error ⟨.apiError, some message, none⟩)
  | response {response : request.Response} (succeeded : 200 ≤ status ∧ status < 300)
      (silent : ∀ message, ¬BodyTells body message) (carried : BodyCarries request body response) :
      Classified diagnosis request status reason body (.ok response)
  /-- What the JSON library tells of the body is both the message and the cause. -/
  | unreadable (succeeded : 200 ≤ status ∧ status < 300) (silent : ∀ message, ¬BodyTells body message)
      (unread : ∀ response, ¬BodyCarries request body response) :
      Classified diagnosis request status reason body (.error ⟨.serialization, some diagnosis.text, some diagnosis.chain⟩)

/-! ### The message in a body -/

theorem filter_eq_singleton_iff {α : Type} {members : List (String × α)} {name : String} {value : α} :
    members.filter (fun member => member.1 == name) = [(name, value)] ↔
      (name, value) ∈ members ∧ (members.map Prod.fst).count name = 1 := by
  have counted : (members.map Prod.fst).count name = (members.filter fun member => member.1 == name).length := by
    rw [List.count, List.countP_map, List.countP_eq_length_filter]
    rfl
  constructor
  · intro only
    refine ⟨List.mem_of_mem_filter (only ▸ List.mem_singleton_self _), ?_⟩
    rw [counted, only, List.length_singleton]
  · rintro ⟨given, once⟩
    obtain ⟨single, only⟩ := List.length_eq_one_iff.mp (counted.symm.trans once)
    have member : (name, value) ∈ members.filter fun member => member.1 == name :=
      List.mem_filter.mpr ⟨given, beq_self_eq_true name⟩
    rw [only, List.mem_singleton] at member
    rw [only, member]

theorem nullable_string_eq_some_iff :
    Decoder.nullable Decoder.string doc = some (some message) ↔ doc = .string message := by
  cases doc <;> simp [Decoder.nullable, Decoder.string]

/-- The text under `error` is read from an object that has one such member, and from a list of that text alone. -/
theorem error_of_fields : ((Decoder.fields ["error"] doc).bind fun fields => fields.optional "error" Decoder.string) =
      some (some message) ↔ doc = .array [.string message] ∨ ∃ members, doc = .object members ∧
      members.filter (fun member => member.1 == "error") = [("error", .string message)] := by
  cases doc with
  | array items =>
    rcases items with _ | ⟨item, _ | ⟨second, rest⟩⟩
    · simp [Decoder.fields, Decoder.Fields.optional, Decoder.Fields.withDefault]
    · simp [Decoder.fields, Decoder.Fields.optional, Decoder.Fields.withDefault, nullable_string_eq_some_iff]
    · simp [Decoder.fields]
  | object members =>
    have known : members.filter (fun member => ["error"].contains member.1) =
        members.filter fun member => member.1 == "error" := by
      apply List.filter_congr
      intro member _
      rw [Bool.eq_iff_iff, List.contains_iff_mem, List.mem_singleton, beq_iff_eq]
    have named : ∀ member ∈ members.filter (fun member => member.1 == "error"), member.1 = "error" :=
      fun member inside => beq_iff_eq.mp (List.mem_filter.mp inside).2
    simp only [Decoder.fields, known, reduceCtorEq, false_or, Document.object.injEq, exists_eq_left']
    generalize members.filter (fun member => member.1 == "error") = given at named
    rcases given with _ | ⟨⟨name, value⟩, _ | ⟨⟨other, second⟩, rest⟩⟩
    · simp [Decoder.Fields.optional, Decoder.Fields.withDefault]
    · obtain rfl : name = "error" := named _ (List.mem_singleton_self _)
      simp [Decoder.Fields.optional, Decoder.Fields.withDefault, nullable_string_eq_some_iff]
    · obtain rfl : name = "error" := named (name, value) (by simp)
      obtain rfl : other = "error" := named (other, second) (by simp)
      simp
  | _ => simp [Decoder.fields]

theorem tells_iff : Tells doc message ↔ message ≠ "" ∧ (doc = .array [.string message] ∨ ∃ members,
    doc = .object members ∧ members.filter (fun member => member.1 == "error") = [("error", .string message)]) := by
  simp only [filter_eq_singleton_iff]
  constructor
  · intro told
    cases told with
    | member given once nonempty => exact ⟨nonempty, .inr ⟨_, rfl, given, once⟩⟩
    | item nonempty => exact ⟨nonempty, .inl rfl⟩
  · rintro ⟨nonempty, rfl | ⟨members, rfl, given, once⟩⟩
    · exact .item nonempty
    · exact .member given once nonempty

theorem errorMessage?_eq_some_iff : errorMessage? body = some message ↔ BodyTells body message := by
  simp only [BodyTells, tells_iff, ← error_of_fields, errorMessage?, Option.bind_eq_bind, Option.bind_eq_some_iff]
  constructor
  · rintro ⟨doc, spelled, fields, given, error, found, told, rfl, nonempty⟩
    split at nonempty
    · cases nonempty
    · rename_i given
      cases nonempty
      exact ⟨doc, spelled, by simpa using given, fields, by assumption, found⟩
  · rintro ⟨doc, spelled, nonempty, fields, given, found⟩
    refine ⟨doc, spelled, fields, given, some message, found, message, rfl, ?_⟩
    simp [nonempty]

theorem errorMessage?_eq_none_iff : errorMessage? body = none ↔ ∀ message, ¬BodyTells body message := by
  simp only [Option.eq_none_iff_forall_ne_some, ← errorMessage?_eq_some_iff, ne_eq]

/-! ### The response in a body -/

theorem decodeBody_eq_some_iff {response : request.Response} :
    decodeBody request body = some response ↔ BodyCarries request body response := by
  cases request <;> simp [decodeBody, BodyCarries, Carries, Request.isMutating, Option.bind_eq_some_iff]

/-! ### The outcome -/

theorem isSuccess_iff : isSuccess status ↔ 200 ≤ status ∧ status < 300 := by
  rw [isSuccess, Bool.and_eq_true, decide_eq_true_iff, decide_eq_true_iff]

theorem kindOfStatus_eq_iff {kind : ErrorKind} : ClientError.kindOfStatus status = kind ↔ StandsFor status kind := by
  constructor
  · rintro rfl
    unfold ClientError.kindOfStatus
    split_ifs with refused missing
    · rcases refused with rfl | rfl
      · exact .unauthorized
      · exact .forbidden
    · rw [missing]
      exact .notFound
    · obtain ⟨unauthorized, forbidden⟩ := not_or.mp refused
      exact .other unauthorized forbidden missing
  · intro stands
    cases stands with
    | unauthorized | forbidden | notFound => rfl
    | other unauthorized forbidden found => simp [ClientError.kindOfStatus, unauthorized, forbidden, found]

theorem explanation_eq_iff : ((errorMessage? body).or reason).getD "request failed" = message ↔
    Explains reason body message := by
  constructor
  · rintro rfl
    cases told : errorMessage? body with
    | some message => exact .told (errorMessage?_eq_some_iff.mp told)
    | none =>
      have silent := errorMessage?_eq_none_iff.mp told
      cases given : reason with
      | some phrase => exact .phrase silent rfl
      | none => exact .unexplained silent rfl
  · intro explains
    cases explains with
    | told told => simp [errorMessage?_eq_some_iff.mpr told]
    | phrase silent given => simp [errorMessage?_eq_none_iff.mpr silent, given]
    | unexplained silent missing => simp [errorMessage?_eq_none_iff.mpr silent, missing]

theorem outcome_of_failed (failed : ¬isSuccess status) : outcome diagnosis request status reason body =
    .error (ClientError.toError (.status status (((errorMessage? body).or reason).getD "request failed"))) := by
  rw [outcome, receive, check, if_neg failed]
  rfl

theorem outcome_of_message (succeeded : isSuccess status) (given : errorMessage? body = some message) :
    outcome diagnosis request status reason body = .error ⟨.apiError, some message, none⟩ := by
  rw [outcome, receive, check, if_pos succeeded, given]
  rfl

theorem outcome_of_silent (succeeded : isSuccess status) (silent : errorMessage? body = none) :
    outcome diagnosis request status reason body = match decodeBody request body with
      | some response => .ok response
      | none => .error ⟨.serialization, some diagnosis.text, some diagnosis.chain⟩ := by
  rw [outcome, receive, check, if_pos succeeded, silent]
  cases decodeBody request body <;> rfl

theorem classified_iff {answer : request.Answer} :
    outcome diagnosis request status reason body = answer ↔ Classified diagnosis request status reason body answer := by
  constructor
  · rintro rfl
    by_cases succeeded : isSuccess status
    · have range := isSuccess_iff.mp succeeded
      cases given : errorMessage? body with
      | some message =>
        rw [outcome_of_message succeeded given]
        exact .told range (errorMessage?_eq_some_iff.mp given)
      | none =>
        have silent := errorMessage?_eq_none_iff.mp given
        rw [outcome_of_silent succeeded given]
        cases read : decodeBody request body with
        | some response => exact .response range silent (decodeBody_eq_some_iff.mp read)
        | none =>
          refine .unreadable range silent fun response carried => ?_
          rw [decodeBody_eq_some_iff.mpr carried] at read
          cases read
    · rw [outcome_of_failed succeeded]
      have outside : status < 200 ∨ 300 ≤ status := by
        rw [isSuccess_iff] at succeeded
        omega
      exact .failure outside (kindOfStatus_eq_iff.mp rfl) (explanation_eq_iff.mp rfl)
  · intro classified
    cases classified with
    | failure outside stands explained =>
      have failed : ¬isSuccess status := by
        rw [isSuccess_iff]
        omega
      rw [outcome_of_failed failed, explanation_eq_iff.mpr explained, ClientError.toError,
        kindOfStatus_eq_iff.mpr stands]
    | told range given => exact outcome_of_message (isSuccess_iff.mpr range) (errorMessage?_eq_some_iff.mpr given)
    | response range silent carried =>
      rw [outcome_of_silent (isSuccess_iff.mpr range) (errorMessage?_eq_none_iff.mpr silent),
        decodeBody_eq_some_iff.mpr carried]
    | unreadable range silent unread =>
      have none : decodeBody request body = none :=
        Option.eq_none_iff_forall_ne_some.mpr fun response read => unread response (decodeBody_eq_some_iff.mp read)
      rw [outcome_of_silent (isSuccess_iff.mpr range) (errorMessage?_eq_none_iff.mpr silent), none]

/-- An object without a member `error` tells none, whatever is further down in it. -/
theorem silent_of_absent {members : List (String × Document)}
    (spelled : Document.ofBytes? body = some (.object members)) (absent : "error" ∉ members.map Prod.fst) : ¬BodyTells body message := by
  rintro ⟨doc, same, told⟩
  cases spelled.symm.trans same
  cases told with
  | member given => exact absent (List.mem_map_of_mem given)

end Client

/-- A client passes on what it learns of the answer that came. -/
theorem ApiClient.call_of_answered {c : ApiClient} {wire : Wire} {request : Request} {sent : HttpRequest} {status : Nat}
    {body : List UInt8} (asked : c.httpRequest request = .ok sent) (answered : wire sent = .answered status body) :
    c.call wire request =
      Client.outcome (c.diagnoses.body request body) request status (reasonPhrase? status) body := by
  rw [call, asked]
  simp only [Except.bind, bind, response, answered, Client.outcome]

namespace Client

/-- Every answer is classified in one way, by its status, by the error that its body tells and by the response that it
carries, and a client passes that on. An object without a member `error` is never taken for an error of the
platform's. -/
theorem classifies_exactly (diagnosis : Diagnosis) (request : Request) (status : Nat) (reason : Option String)
    (body : List UInt8) :
    (∀ answer, outcome diagnosis request status reason body = answer ↔
      Classified diagnosis request status reason body answer) ∧
    (∀ members, Document.ofBytes? body = some (.object members) → "error" ∉ members.map Prod.fst →
      ∀ e, outcome diagnosis request status reason body = .error e → e.kind ≠ .apiError) ∧
    ∀ (c : ApiClient) wire sent, c.httpRequest request = .ok sent → wire sent = .answered status body →
      Classified (c.diagnoses.body request body) request status (reasonPhrase? status) body (c.call wire request) := by
  refine ⟨fun answer => classified_iff, fun members spelled absent e failed => ?_, fun c wire sent asked answered => ?_⟩
  · cases classified_iff.mp failed with
    | failure outside stands => cases stands <;> nofun
    | told range given => exact absurd given (silent_of_absent spelled absent)
    | unreadable => nofun
  · rw [ApiClient.call_of_answered asked answered]
    exact classified_iff.mp rfl

/-- A body with an error further down in it: the state of an operator that failed. -/
def failedOperator : List UInt8 :=
  "\x7b\"exec_state\":\x7b\"status\":\"failed\",\"error\":\x7b\"context\":\"boom\"\x7d\x7d\x7d".toUTF8.data.toList

theorem ofBytes?_failedOperator : Document.ofBytes? failedOperator = some (.object [("exec_state",
    .object [("status", .string "failed"), ("error", .object [("context", .string "boom")])])]) := rfl

/-- The error of a run is part of the result that was asked for, and the body is no result of another kind. Under a
status of failure it explains nothing. -/
theorem classifies_exactly_nested :
    let diagnosis : Diagnosis := { text := "missing field" }
    outcome diagnosis (.getOperatorResult ⟨7⟩ ⟨2⟩) 200 (some "OK") failedOperator =
        .ok { execState := { status := .failed, error := some { context := "boom" } } } ∧
      outcome diagnosis (.getArtifactResult ⟨7⟩ ⟨3⟩) 200 (some "OK") failedOperator =
        .error ⟨.serialization, some "missing field", some "missing field"⟩ ∧
      outcome diagnosis (.getOperatorResult ⟨7⟩ ⟨2⟩) 500 none failedOperator =
        .error ⟨.networkError, some "HTTP 500: request failed", none⟩ := by
  intro diagnosis
  have silent (message : String) : ¬BodyTells failedOperator message :=
    silent_of_absent ofBytes?_failedOperator (by simp)
  obtain ⟨succeeds, _⟩ := classifies_exactly diagnosis (.getOperatorResult ⟨7⟩ ⟨2⟩) 200 (some "OK") failedOperator
  obtain ⟨misread, _⟩ := classifies_exactly diagnosis (.getArtifactResult ⟨7⟩ ⟨3⟩) 200 (some "OK") failedOperator
  obtain ⟨fails, _⟩ := classifies_exactly diagnosis (.getOperatorResult ⟨7⟩ ⟨2⟩) 500 none failedOperator
  refine ⟨?_, ?_, ?_⟩
  · exact (succeeds _).mpr (.response (by decide) silent (.inr ⟨_, ofBytes?_failedOperator, rfl⟩))
  · refine (misread _).mpr (.unreadable (by decide) silent ?_)
    rintro response (changes | ⟨doc, spelled, carried⟩)
    · cases changes
    · cases ofBytes?_failedOperator.symm.trans spelled
      cases carried
  · exact (fails _).mpr (.failure (by decide) (.other (by decide) (by decide) (by decide)) (.unexplained silent rfl))

end Client

end DagConsole
