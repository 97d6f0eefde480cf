import DagConsole.Table
import DagConsole.Proofs.Json.Printing
import DagConsole.Proofs.Wire.Records

/-! The two ways to write the rows of a table. Rows that stand in a payload as they are, and rows whose text stands in
it as a string, go through different decoders, and the same table comes out. -/
namespace DagConsole

open Json.Reader (depthLimit memberSymbols Spells symbols)

theorem lookup_eq_head? {α : Type} (name : String) (members : List (String × α)) :
    members.lookup name = (members.filter fun member => member.1 == name).head?.map Prod.snd := by
  rw [List.head?_filter]
  induction members with
  | nil => rfl
  | cons member rest ih =>
    obtain ⟨key, value⟩ := member
    rw [List.lookup_cons, List.find?_cons, ih, BEq.comm]
    dsimp only
    cases key == name <;> rfl

/-- Fields of which none is given twice are read, each by its name. -/
theorem Decoder.fields_of_once {names : List String} {members : List (String × Document)}
    (once : ∀ name ∈ names, (members.filter fun member => member.1 == name).length ≤ 1) :
    ∃ given, Decoder.fields names (.object members) = some ⟨given, false⟩ ∧
      ∀ name ∈ names, given.lookup name = (members.filter fun member => member.1 == name).head?.map Prod.snd := by
  have kept : ∀ name, (members.filter fun member => names.contains member.1).filter (fun member => member.1 == name) =
      if name ∈ names then members.filter fun member => member.1 == name else [] := by
    intro name
    rw [List.filter_filter]
    split_ifs with known
    · refine List.filter_congr fun member _ => ?_
      by_cases same : member.1 = name <;> simp [same, known]
    · refine List.filter_eq_nil_iff.mpr fun member _ => ?_
      by_cases same : member.1 = name <;> simp [same, known]
  refine ⟨members.filter fun member => names.contains member.1, if_pos ?_, fun name known => ?_⟩
  · refine List.nodup_iff_count_le_one.mpr fun name => ?_
    rw [List.count, List.countP_map, List.countP_eq_length_filter]
    refine (congrArg List.length (kept name)).trans_le ?_
    split_ifs with known
    · exact once name known
    · exact Nat.zero_le 1
  · rw [lookup_eq_head?, kept name, if_pos known]

def Document.IsObject : Document → Prop
  | .object _ => True
  | _ => False

namespace TableData

variable {columns : List TableField} {data doc : Document} {item v : Json} {row : FinMap String Json}

/-- The row that an object stands for: under each name, the value of the last member of that name. -/
def IsRow (doc : Document) (row : FinMap String Json) : Prop :=
  ∃ members, doc = .object members ∧ ∀ name, row.find? name =
    (members.reverse.find? fun member => member.1 == name).bind fun member => member.2.value?

/-- What is made of a list of rows that is written in two ways: the same table of a row for each object, or two errors
if one of the rows is no object. -/
inductive Agree (columns : List TableField) (docs : List Document) : Outcome TableData → Outcome TableData → Prop where
  | rows {rows : List (FinMap String Json)} (each : List.Forall₂ IsRow docs rows) :
      Agree columns docs (.ok ⟨columns, rows⟩) (.ok ⟨columns, rows⟩)
  | refused {one other : Error} (odd : ∃ doc ∈ docs, ¬doc.IsObject) (inline : one.kind = .serialization)
      (encoded : other.kind = .serialization) : Agree columns docs (.error one) (.error other)

/-! ### Rows -/

theorem valueMap_object (members : List (String × Document)) :
    Decoder.valueMap (.object members) = (Document.memberValues? members).map FinMap.ofList := by
  have same : ∀ member : String × Document, (do return (← some member.1, ← Decoder.value member.2) : Option _) =
      member.2.value?.map (member.1, ·) := by
    intro member
    rw [Option.map_eq_bind]
    rfl
  rw [Document.memberValues?_eq, ← funext same, Option.map_eq_bind]
  rfl

theorem isObject_of_valueMap (read : Decoder.valueMap doc = some row) : doc.IsObject ∧ ∃ v, doc.value? = some v := by
  match doc, read with
  | .object members, read =>
    rw [valueMap_object] at read
    obtain ⟨entries, each, rfl⟩ := Option.map_eq_some_iff.mp read
    exact ⟨trivial, .ofFields entries, by rw [Document.value?, each, Option.map_some]⟩

theorem lookup_of_forall₂ {members : List (String × Document)} {entries : List (String × Json)} (name : String)
    (each : List.Forall₂ (fun member entry => member.2.value?.map (member.1, ·) = some entry) members entries) :
    FinMap.lookup name entries = (members.find? fun member => member.1 == name).bind fun member => member.2.value? := by
  induction each with
  | nil => rfl
  | @cons member entry members entries here later ih =>
    obtain ⟨value, stands, rfl⟩ := Option.map_eq_some_iff.mp here
    by_cases same : member.1 = name
    · simp [FinMap.lookup, same, stands]
    · simp only [FinMap.lookup] at ih
      simp [FinMap.lookup, same, Ne.symm same, ih]

theorem isRow_of_valueMap (read : Decoder.valueMap doc = some row) : IsRow doc row := by
  match doc, read with
  | .object members, read =>
    rw [valueMap_object, Document.memberValues?_eq] at read
    obtain ⟨entries, each, rfl⟩ := Option.map_eq_some_iff.mp read
    refine ⟨members, rfl, fun name => ?_⟩
    rw [FinMap.find?_ofList]
    exact lookup_of_forall₂ name (List.rel_reverse (mapM_eq_some_iff.mp each))

theorem row_of_value? (stands : doc.value? = some v) :
    (doc.IsObject ∧ ∃ row, TableData.row v = .ok row ∧ Decoder.valueMap doc = some row) ∨
    (¬doc.IsObject ∧ Decoder.valueMap doc = none ∧
      ∃ e : Error, TableData.row v = .error e ∧ e.kind = .serialization) := by
  match doc, stands with
  | .object members, stands =>
    obtain ⟨fields, each, rfl⟩ := Option.map_eq_some_iff.mp stands
    refine .inl ⟨trivial, FinMap.ofList fields, ?_, by rw [valueMap_object, each, Option.map_some]⟩
    rw [Json.ofFields, Json.ofMap, TableData.row, Json.Members.toMap_ofMap]
  | .array items, stands =>
    obtain ⟨values, each, rfl⟩ := Option.map_eq_some_iff.mp stands
    exact .inr ⟨id, rfl, _, rfl, rfl⟩
  | .null, stands | .bool _, stands | .integer _, stands | .float _, stands | .string _, stands =>
    cases stands
    exact .inr ⟨id, rfl, _, rfl, rfl⟩

theorem rows_of_values {docs : List Document} {items : List Json}
    (each : List.Forall₂ (fun doc item => doc.value? = some item) docs items) :
    (∃ rows, List.Forall₂ IsRow docs rows ∧ items.mapM TableData.row = .ok rows ∧
      docs.mapM Decoder.valueMap = some rows) ∨
    ((∃ doc ∈ docs, ¬doc.IsObject) ∧ docs.mapM Decoder.valueMap = none ∧
      ∃ e : Error, items.mapM TableData.row = .error e ∧ e.kind = .serialization) := by
  induction each with
  | nil => exact .inl ⟨[], .nil, rfl, rfl⟩
  | @cons doc item docs items here later ih =>
    rw [List.mapM_cons, List.mapM_cons]
    rcases row_of_value? here with ⟨_, row, fromValue, fromText⟩ | ⟨odd, unread, e, refused, kind⟩
    · rcases ih with ⟨rows, are, fromValues, fromTexts⟩ | ⟨⟨other, inside, odd⟩, unread, e, refused, kind⟩
      · refine .inl ⟨row :: rows, .cons (isRow_of_valueMap fromText) are, ?_, ?_⟩
        · rw [fromValue, fromValues]
          rfl
        · rw [fromText, fromTexts]
          rfl
      · refine .inr ⟨⟨other, List.mem_cons_of_mem _ inside, odd⟩, ?_, e, ?_, kind⟩
        · rw [fromText, unread]
          rfl
        · rw [fromValue, refused]
          rfl
    · refine .inr ⟨⟨doc, List.mem_cons_self, odd⟩, ?_, e, ?_, kind⟩
      · rw [unread]
        rfl
      · rw [refused]
        rfl

/-! ### Payloads -/

/-- A payload of some columns and of some data, which may be left out: an object with one member for each, in which
other members do not count, or the list of both. -/
inductive Payload (columns : List TableField) (data : Option Document) : Document → Prop where
  | members {members : List (String × Document)} {schema : Document} (read : decodeSchema schema = some columns)
      (under : members.filter (fun member => member.1 == "schema") = [("schema", schema)])
      (beside : members.filter (fun member => member.1 == "data") = data.toList.map ("data", ·)) :
      Payload columns data (.object members)
  | items {schema : Document} (read : decodeSchema schema = some columns) :
      Payload columns data (.array (schema :: data.toList))

/-- A text that spells a payload. -/
def Holds (content : String) (columns : List TableField) (data : Option Document) : Prop :=
  ∃ doc, Document.ofText? content = some doc ∧ Payload columns data doc

theorem decodePayload_of_payload {data : Option Document} (payload : Payload columns data doc) :
    decodePayload doc = (data.elim (some .null) Document.value?).map (columns, ·) := by
  cases payload with
  | @members members schema read under beside =>
    have once : ∀ name ∈ ["schema", "data"], (members.filter fun member => member.1 == name).length ≤ 1 := by
      intro name known
      rcases List.mem_pair.mp known with rfl | rfl
      · rw [under, List.length_singleton]
      · rw [beside, List.length_map]
        exact Option.length_toList_le
    obtain ⟨given, known, named⟩ := Decoder.fields_of_once once
    have schemaGiven : given.lookup "schema" = some schema := by
      rw [named "schema" (by decide), under]
      rfl
    have dataGiven : given.lookup "data" = data := by
      rw [named "data" (by decide), beside]
      cases data <;> rfl
    rw [decodePayload, known]
    simp only [Option.bind_eq_bind, Option.bind_some, Decoder.Fields.required, Decoder.Fields.withDefault, schemaGiven,
      dataGiven, read]
    cases data with
    | none => rfl
    | some data => exact (Option.map_eq_bind ..).symm
  | items read =>
    cases data with
    | none =>
      change (decodeSchema _).bind _ = _
      rw [read]
      rfl
    | some data =>
      change (decodeSchema _).bind _ = _
      rw [read]
      exact (Option.map_eq_bind ..).symm

theorem parse_of_holds {content : String} {data : Option Document} (holds : Holds content columns data) :
    parse content = match data.elim (some .null) Document.value? with
      | none => .error .invalidPayload
      | some v => (rowsOf v).map (⟨columns, ·⟩) := by
  obtain ⟨doc, spelled, payload⟩ := holds
  rw [parse, spelled]
  simp only [ofDocument, decodePayload_of_payload payload]
  cases data.elim (some Json.null) Document.value? <;> rfl

/-! ### Payloads around a text -/

/-- A schema as it is written. -/
def schemaJson (columns : List TableField) : Json := .ofFields [("fields", .array (columns.map TableField.toJson))]

/-- The text of a payload, with the text of its data put into it as it is. -/
def payloadText (columns : List TableField) (data : String) : String :=
  "\x7b\"schema\":" ++ (schemaJson columns).compact ++ ",\"data\":" ++ data ++ "\x7d"

theorem decodeSchema_schemaJson (columns : List TableField) :
    decodeSchema (schemaJson columns).toDocument = some columns := by
  have each : ∀ field ∈ columns, ReadsBack TableField.decode TableField.toJson field := by
    intro field _
    have read :
        TableField.decode (.object [("name", .string field.name), ("type", .string field.type)]) = some field := rfl
    exact TableField.restores read
  change Decoder.list TableField.decode (Json.array (columns.map TableField.toJson)).toDocument = _
  rw [Json.toDocument, Json.itemDocuments_eq, List.map_map]
  exact mapM_map each

theorem verbal_schemaJson (room : Nat) (columns : List TableField) : (schemaJson columns).Verbal (room + 3) := by
  refine .ofFields (List.forall_mem_singleton.mpr (.array fun item inside => ?_))
  obtain ⟨field, _, rfl⟩ := List.mem_map.mp inside
  exact .ofFields (List.forall_mem_cons.mpr ⟨.string _, List.forall_mem_singleton.mpr (.string _)⟩)

theorem symbols_payloadText (columns : List TableField) (text : String) :
    symbols (payloadText columns text) = .char '{' :: ([.char ','].intercalate
      ([("schema", symbols (schemaJson columns).compact), ("data", symbols text)].map memberSymbols) ++
      [.char '}']) := by
  have schema : symbols "\x7b\"schema\":" = .char '{' :: (symbols (Json.quote "schema") ++ [.char ':']) := by decide
  have data : symbols ",\"data\":" = .char ',' :: (symbols (Json.quote "data") ++ [.char ':']) := by decide
  have closing : symbols "\x7d" = [.char '}'] := rfl
  simp [payloadText, memberSymbols, schema, data, closing]

theorem spells_pair {room : Nat} {one other : List Json.Reader.Symbol} {schema : Document}
    (under : Spells room one schema) (beside : Spells room other doc) :
    Spells (room + 1) (.char '{' :: ([.char ','].intercalate ([("schema", one), ("data", other)].map memberSymbols) ++
      [.char '}'])) (.object [("schema", schema), ("data", doc)]) :=
  .object (.cons ⟨rfl, under⟩ (.cons ⟨rfl, beside⟩ .nil))

theorem holds_payloadText (columns : List TableField) {text : String}
    (spells : Spells (depthLimit - 1) (symbols text) doc) : Holds (payloadText columns text) columns (some doc) := by
  have whole : Spells depthLimit (symbols (payloadText columns text))
      (.object [("schema", (schemaJson columns).toDocument), ("data", doc)]) := by
    rw [symbols_payloadText]
    -- Of the 126 levels inside the payload, a schema takes three.
    exact spells_pair (verbal_schemaJson 123 columns).spells spells
  exact ⟨_, whole.document?, .members (decodeSchema_schemaJson columns) (by simp) (by simp)⟩

/-- A text that spells an array of objects. -/
def EncodesRows (text : String) : Prop :=
  ∃ docs, Document.ofText? text = some (.array docs) ∧ (Document.array docs).value?.isSome ∧ ∀ doc ∈ docs, doc.IsObject

/-- What payloads of some columns mean, in either encoding of their data. -/
structure Encodings (columns : List TableField) : Prop where
  /-- An array means the same where it stands as where its text does. -/
  agree : ∀ {text docs v data inline encoded}, Document.ofText? text = some (.array docs) →
    (Document.array docs).value? = some v → data.value? = some v → Holds inline columns (some data) →
    Holds encoded columns (some (.string text)) → Agree columns docs (parse inline) (parse encoded)
  /-- Every text of an array can be put into a payload, as it is or in quotes, if the limit on nesting leaves room for
  the payload around it. -/
  pasted : ∀ {text docs}, Document.ofText? text = some (.array docs) → (Document.array docs).Within (depthLimit - 1) →
    Holds (payloadText columns text) columns (some (.array docs)) ∧
    Holds (payloadText columns (Json.quote text)) columns (some (.string text)) ∧
    Agree columns docs (parse (payloadText columns text)) (parse (payloadText columns (Json.quote text)))
  missing : ∀ {content}, Holds content columns none ∨ Holds content columns (some .null) →
    parse content = .ok ⟨columns, []⟩
  /-- Nothing else is the data of a table. -/
  other : ∀ {content data}, Holds content columns (some data) → data ≠ .null → (∀ docs, data ≠ .array docs) →
    (∀ text, data = .string text → ¬EncodesRows text) → ∃ e : Error, parse content = .error e ∧ e.kind = .serialization

theorem agree_of_holds {text inline encoded : String} {docs : List Document}
    (spelled : Document.ofText? text = some (.array docs)) (stands : (Document.array docs).value? = some v)
    (same : data.value? = some v) (one : Holds inline columns (some data))
    (other : Holds encoded columns (some (.string text))) : Agree columns docs (parse inline) (parse encoded) := by
  obtain ⟨items, values, rfl⟩ := Option.map_eq_some_iff.mp stands
  rw [parse_of_holds one, parse_of_holds other]
  rw [Document.itemValues?_eq] at values
  simp only [Option.elim_some, same, Document.value?, rowsOf, spelled, Option.bind_some, Decoder.list]
  rcases rows_of_values (mapM_eq_some_iff.mp values) with
    ⟨rows, are, fromValues, fromTexts⟩ | ⟨odd, unread, e, refused, kind⟩
  · rw [fromValues, fromTexts]
    exact .rows are
  · rw [refused, unread]
    exact .refused odd kind rfl

theorem encodesRows_of_rows {text : String} {rows : List (FinMap String Json)}
    (read : (Document.ofText? text).bind (Decoder.list Decoder.valueMap) = some rows) : EncodesRows text := by
  obtain ⟨doc, spelled, listed⟩ := Option.bind_eq_some_iff.mp read
  match doc, listed with
  | .array docs, listed =>
    have each : ∀ doc ∈ docs, doc.IsObject ∧ ∃ v, doc.value? = some v := by
      intro doc inside
      obtain ⟨row, here⟩ := exists_mapM_iff.mp ⟨rows, listed⟩ doc inside
      exact isObject_of_valueMap here
    obtain ⟨values, stand⟩ := exists_mapM_iff.mpr fun doc inside => (each doc inside).2
    refine ⟨docs, spelled, ?_, fun doc inside => (each doc inside).1⟩
    rw [Document.value?, Document.itemValues?_eq, stand]
    rfl

theorem refused_of_holds {content : String} (holds : Holds content columns (some data)) (given : data ≠ .null)
    (single : ∀ docs, data ≠ .array docs) (odd : ∀ text, data = .string text → ¬EncodesRows text) :
    ∃ e : Error, parse content = .error e ∧ e.kind = .serialization := by
  rw [parse_of_holds holds]
  match data with
  | .null => exact absurd rfl given
  | .array docs => exact absurd rfl (single docs)
  | .invalid => exact ⟨_, rfl, rfl⟩
  | .bool _ | .integer _ | .float _ => exact ⟨_, rfl, rfl⟩
  | .object members =>
    rw [Option.elim_some, Document.value?]
    cases Document.memberValues? members <;> exact ⟨_, rfl, rfl⟩
  | .string text =>
    simp only [Option.elim_some, Document.value?, rowsOf]
    cases read : (Document.ofText? text).bind (Decoder.list Decoder.valueMap) with
    | none => exact ⟨_, rfl, rfl⟩
    | some rows => exact absurd (encodesRows_of_rows read) (odd text rfl)

/-- Both encodings of an array are the same table, or neither is a table. -/
theorem encodings_agree (columns : List TableField) : Encodings columns := by
  refine ⟨agree_of_holds, ?_, ?_, refused_of_holds⟩
  · intro text docs spelled within
    have inline := holds_payloadText columns (Json.Reader.spells_of_document? spelled within trivial)
    have encoded := holds_payloadText columns (Json.Reader.spells_quote _ text)
    obtain ⟨v, stands⟩ := within.value?
    exact ⟨inline, encoded, agree_of_holds spelled stands stands inline encoded⟩
  · rintro content (absent | null)
    · rw [parse_of_holds absent]
      rfl
    · rw [parse_of_holds null]
      rfl

/-- A row in which a name stands twice. -/
def repeatedRow : String := "[\x7b\"x\":\"a\",\"x\":\"b\"\x7d]"

theorem ofText?_repeatedRow :
    Document.ofText? repeatedRow = some (.array [.object [("x", .string "a"), ("x", .string "b")]]) := by cbv

/-- Of the two the last one counts, in both encodings. -/
theorem encodings_agree_repeated :
    ∃ row : FinMap String Json, row.find? "x" = some (.string "b") ∧
      parse (payloadText [⟨"x", "string"⟩] repeatedRow) = .ok ⟨[⟨"x", "string"⟩], [row]⟩ ∧
      parse (payloadText [⟨"x", "string"⟩] (Json.quote repeatedRow)) = .ok ⟨[⟨"x", "string"⟩], [row]⟩ := by
  have within : (Document.array [.object [("x", .string "a"), ("x", .string "b")]]).Within (124 + 1 + 1) := by
    refine .array (List.forall_mem_singleton.mpr (.object ?_))
    exact List.forall_mem_cons.mpr ⟨.string "a", List.forall_mem_singleton.mpr (.string "b")⟩
  obtain ⟨-, -, same⟩ := (encodings_agree [⟨"x", "string"⟩]).pasted ofText?_repeatedRow within
  generalize parse (payloadText _ repeatedRow) = inline at same ⊢
  generalize parse _ = encoded at same ⊢
  cases same with
  | rows each =>
    obtain ⟨row, _, ⟨members, shape, named⟩, last, rfl⟩ := List.forall₂_cons_left_iff.mp each
    cases last
    cases shape
    exact ⟨row, named "x", rfl, rfl⟩
  | refused odd _ _ =>
    obtain ⟨doc, inside, odd⟩ := odd
    rw [List.mem_singleton.mp inside] at odd
    exact absurd trivial odd

end TableData

end DagConsole
