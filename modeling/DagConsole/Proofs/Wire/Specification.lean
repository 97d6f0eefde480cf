import DagConsole.Proofs.Wire.Records

/-! Specifications that are put together field by field. The kind goes over the wire as a member `type` beside the
parameters, so they come back as they were for as long as no parameter has that name. -/
namespace DagConsole.OperatorSpec

open Decoder

variable {s : OperatorSpec} {given : Json}

/-- The members as they are streamed into a body, one after another: there the kind is not replaced by a parameter. -/
def streamed (s : OperatorSpec) : Document :=
  .object (Json.memberDocuments (("type", s.kind.toJson) :: s.params.entries))

/-- Without a parameter named like the kind, a specification is read from its members. -/
theorem decode_streamed_of_fresh (fresh : "type" ∉ s.params.keys) : decode s.streamed = some s := by
  obtain ⟨kinds, others⟩ := FinMap.filter_cons_of_fresh s.kind.toJson fresh
  rw [streamed, decode_of_members kinds (.of_eq others), s.kind.member_toJson, Option.map_some]

/-! ### A parameter named like the kind -/

/-- The parameter is read as the kind and is none any more. -/
theorem decode_toJson_of_named (named : s.params.find? "type" = some given) :
    decode s.toJson.toDocument = (member given.toDocument).map fun kind => ⟨kind, s.params.erase "type"⟩ := by
  have written : s.toJson = Json.ofFields (("type", given) :: (s.params.erase "type").entries) := by
    rw [toJson, Json.ofFields, FinMap.ofList_cons_of_find? _ named, Json.ofFields, FinMap.ofList_cons_erase named]
  rw [written, decode_ofFields (FinMap.not_mem_keys_erase _ _)]

/-- Two members of one name are refused. -/
theorem decode_streamed_of_named (named : s.params.find? "type" = some given) : decode s.streamed = none := by
  have twice : 2 ≤ ((Json.memberDocuments (("type", s.kind.toJson) :: s.params.entries)).filter
      fun member => member.1 == "type").length := by
    have inside : ("type", given) ∈ s.params.entries.filter fun field => field.1 == "type" :=
      List.mem_filter.mpr ⟨FinMap.find?_eq_some_iff.mp named, rfl⟩
    rw [Json.filter_memberDocuments (· == "type"), Json.memberDocuments, List.length_map,
      List.filter_cons_of_pos (by rfl), List.length_cons]
    exact Nat.succ_le_succ (List.length_pos_of_mem inside)
  rw [streamed, decode, List.partition_eq_filter_filter]
  dsimp only
  split
  · rename_i only
    rw [only] at twice
    cases twice with
    | step last => cases last
  · rfl

/-! ### Added parameters -/

/-- The specification of a kind to which parameters are added one after another. -/
def built (kind : OperatorType) (params : List (String × Json)) : OperatorSpec :=
  params.foldl (fun s param => s.withParam param.1 param.2) { kind }

theorem built_eq (kind : OperatorType) (params : List (String × Json)) :
    built kind params = ⟨kind, FinMap.ofList params⟩ := by
  have fold : ∀ m : FinMap String Json, params.foldl (fun s param => s.withParam param.1 param.2) ⟨kind, m⟩ =
      (⟨kind, params.foldl (fun m param => m.insert param.1 param.2) m⟩ : OperatorSpec) := by
    induction params with
    | nil => exact fun _ => rfl
    | cons param rest ih => exact fun m => ih (m.insert param.1 param.2)
  exact fold .empty

/-- What comes back of a specification that was put together by adding parameters. It is the same one, with its kind,
payload, level and integration, exactly if no parameter is named like the kind. One that is takes the place of the kind
in the value that is written, and spoils the body into which the members are streamed. -/
theorem built_comes_back (kind : OperatorType) (params : List (String × Json)) :
    (decode (built kind params).toJson.toDocument = some (built kind params) ↔ ∀ param ∈ params, param.1 ≠ "type") ∧
    (decode (built kind params).streamed = some (built kind params) ↔ ∀ param ∈ params, param.1 ≠ "type") ∧
    ∀ given, (built kind params).params.find? "type" = some given →
      decode (built kind params).toJson.toDocument =
        (member given.toDocument).map (fun other => ⟨other, (built kind params).params.erase "type"⟩) ∧
      decode (built kind params).streamed = none := by
  have unnamed : (∀ param ∈ params, param.1 ≠ "type") ↔ "type" ∉ (built kind params).params.keys := by
    rw [built_eq, FinMap.mem_keys_ofList, List.mem_map]
    exact ⟨fun apart ⟨param, inside, same⟩ => apart param inside same,
      fun apart param inside same => apart ⟨param, inside, same⟩⟩
  have fresh : ∀ {doc : Document}, decode doc = some (built kind params) → ∀ param ∈ params, param.1 ≠ "type" :=
    fun read => unnamed.mpr (fresh_of_decode read)
  refine ⟨⟨fresh, fun apart => ?_⟩, ⟨fresh, fun apart => ?_⟩, fun given named => ⟨?_, ?_⟩⟩
  · exact decode_toJson_of_fresh (unnamed.mp apart)
  · exact decode_streamed_of_fresh (unnamed.mp apart)
  · exact decode_toJson_of_named named
  · exact decode_streamed_of_named named

/-- A failing check of two parameters comes back; were it named `type`, the second one would be read as the kind. -/
theorem built_comes_back_check :
    let level : Json := .ofFields [("function", .null), ("level", .string "error")]
    decode (built .check [("check", level), ("kind", .string "load")]).toJson.toDocument =
      some (built .check [("check", level), ("kind", .string "load")]) ∧
    decode (built .check [("check", level), ("type", .string "load")]).toJson.toDocument =
      some ⟨.load, (built .check [("check", level), ("type", .string "load")]).params.erase "type"⟩ := by
  intro level
  have named : (built .check [("check", level), ("type", .string "load")]).params.find? "type" =
      some (.string "load") := by
    rw [built_eq, FinMap.find?_ofList_eq_some_iff (FinMap.consistent_of_nodup (by simp))]
    simp
  refine ⟨(built_comes_back .check [("check", level), ("kind", .string "load")]).1.mpr (by simp), ?_⟩
  exact ((built_comes_back .check [("check", level), ("type", .string "load")]).2.2 (.string "load") named).1

/-- A check that fails the run comes back as a load without a level, or not at all when the parameter is no kind. -/
theorem check_read_as_load :
    let level : Json := .ofFields [("level", .string "error")]
    let s := built .check [("check", level), ("type", .string "load")]
    s.checkLevel = some .error ∧ decode s.toJson.toDocument = some (built .load [("check", level)]) ∧
      (built .load [("check", level)]).checkLevel = none ∧ decode s.toJson.toDocument ≠ some s ∧
      decode (built .check [("type", .null)]).toJson.toDocument = none := by
  refine ⟨rfl, rfl, rfl, fun same => ?_, rfl⟩
  have kinds : some OperatorType.load = some .check := congrArg (Option.map kind) same
  cases kinds

end DagConsole.OperatorSpec
