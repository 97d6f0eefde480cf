import DagConsole.Json.Printer
import DagConsole.Proofs.Json.Reading
import DagConsole.Proofs.Json.Values
import DagConsole.Proofs.Text.Numeral
import Mathlib.Data.List.DropRight
import Mathlib.Data.List.Forall2

/-! The text of a value, read again. A quoted text is read as itself, and containers of texts that are read again are
read again too, wherever they stand. -/
namespace DagConsole.Json

/-- A value without numbers, with no more than so many containers nested in each other. -/
inductive Verbal : Nat → Json → Prop where
  | null {room : Nat} : Verbal room .null
  | bool {room : Nat} (value : Bool) : Verbal room (.bool value)
  | string {room : Nat} (text : String) : Verbal room (.string text)
  | array {room : Nat} {items : List Json} (each : ∀ item ∈ items, Verbal room item) :
      Verbal (room + 1) (.array items)
  | object {room : Nat} {members : Members none} (each : ∀ member ∈ members.entries, Verbal room member.2) :
      Verbal (room + 1) (.object members)

theorem Verbal.ofFields {room : Nat} {fields : List (String × Json)} (each : ∀ field ∈ fields, field.2.Verbal room) :
    (Json.ofFields fields).Verbal (room + 1) := by
  refine .object fun member inside => ?_
  rw [Members.entries_ofMap] at inside
  exact each _ (FinMap.mem_of_find?_ofList (FinMap.find?_eq_some_iff.mpr inside))

theorem compactItems_eq (items : List Json) : compactItems items = items.map compact := by
  induction items with
  | nil => rfl
  | cons item rest ih => rw [compactItems, ih, List.map_cons]

theorem compactMembers_eq {bound : Option String} (members : Members bound) :
    compactMembers members = members.entries.map fun member => quote member.1 ++ ":" ++ member.2.compact := by
  induction members with
  | nil => rfl
  | cons name value _ _ ih => exact congrArg ((quote name ++ ":" ++ value.compact) :: ·) ih

namespace Reader

@[simp] theorem symbols_append (one other : String) : symbols (one ++ other) = symbols one ++ symbols other := by
  simp [symbols]

theorem symbols_intercalate (separator : String) (parts : List String) :
    symbols (separator.intercalate parts) = (symbols separator).intercalate (parts.map symbols) := by
  induction parts with
  | nil => rfl
  | cons first rest ih => cases rest <;> simp_all

/-! ### Quoted text -/

/-- The control characters without a letter of their own are escaped by their number. -/
theorem pieces?_unit {n : Nat} (control : n < 0x20) (input : List Symbol) :
    pieces? ((['\\', 'u'] ++ Text.hexDigits 4 n).map .char ++ input) =
      (pieces? input).map fun (pieces, rest) => (.unit n :: pieces, rest) := by
  obtain ⟨a, b, c, d, digits⟩ : ∃ a b c d, Text.hexDigits 4 n = [a, b, c, d] := ⟨_, _, _, _, rfl⟩
  have number : codeUnit? (.char a) (.char b) (.char c) (.char d) = some n := by
    rw [codeUnit?, ← digits, Text.hexNumber?_hexDigits (by omega)]
  rw [digits]
  simp [pieces?, number, Option.map_eq_bind]

theorem spell?_unit {n : Nat} (control : n < 0x20) (pieces : List Piece) :
    spell? (.unit n :: pieces) = (spell? pieces).map (Char.ofNat n :: ·) := by
  -- No control character is half of a surrogate pair, whatever unit follows it.
  have notHigh : ¬0xD800 ≤ n := by omega
  have notLow : ¬0xDC00 ≤ n := by omega
  rcases pieces with _ | ⟨_ | _ | _, rest⟩ <;> simp [spell?, notHigh, notLow]

/-- An escape is one part of a literal, and stands for its character. -/
theorem pieces?_escape (c : Char) : ∃ piece, (∀ input, pieces? ((escape c).map .char ++ input) =
      (pieces? input).map fun (pieces, rest) => (piece :: pieces, rest)) ∧
    ∀ pieces, spell? (piece :: pieces) = (spell? pieces).map (c :: ·) := by
  unfold escape
  split
  case h_8 quote slash _ _ _ _ _ =>
    split_ifs with control
    · exact ⟨.unit c.toNat, pieces?_unit control, by simpa using spell?_unit control⟩
    · refine ⟨.char c, fun input => ?_, fun pieces => rfl⟩
      have legal : ¬(c.toNat < 0x20 ∨ c = '\\') := fun illegal => illegal.elim control slash
      rw [List.map_singleton, List.singleton_append, pieces?, if_neg legal, Option.map_eq_bind]
      · rfl
      · exact quote
      · exact fun _ _ _ _ _ _ => slash
      · exact fun _ _ _ => slash
  all_goals exact ⟨.char _, fun input => by simp [pieces?, escaped?, Option.map_eq_bind], fun _ => rfl⟩

theorem pieces?_escapes (text : List Char) (rest : List Symbol) : ∃ pieces,
    pieces? ((text.flatMap escape).map .char ++ .char '"' :: rest) = some (pieces, rest) ∧
      spell? pieces = some text := by
  induction text with
  | nil => exact ⟨[], rfl, rfl⟩
  | cons c text ih =>
    obtain ⟨pieces, split, spelled⟩ := ih
    obtain ⟨piece, first, stands⟩ := pieces?_escape c
    refine ⟨piece :: pieces, ?_, by rw [stands, spelled, Option.map_some]⟩
    rw [List.flatMap_cons, List.map_append, List.append_assoc, first, split, Option.map_some]

theorem stringBody?_escapes (text : List Char) (rest : List Symbol) :
    stringBody? ((text.flatMap escape).map .char ++ .char '"' :: rest) = some (some text, rest) := by
  obtain ⟨pieces, split, spelled⟩ := pieces?_escapes text rest
  rw [stringBody?, split, ← spelled]
  rfl

theorem symbols_quote (text : String) : symbols (quote text) =
    .char '"' :: ((text.toList.flatMap escape).map .char ++ [.char '"']) := by
  simp [symbols, quote]

/-! ### Texts that are read wherever they stand -/

variable {room fuel : Nat} {input : List Symbol} {inputs : List (List Symbol)} {doc : Document} {docs : List Document}

/-- An input that is read as a document wherever there is room for it and whatever stands behind it; white space at its
end may be left over. The steps are those that reading it as a document of its own has to spare. -/
def Spells (room : Nat) (input : List Symbol) (doc : Document) : Prop :=
  ∃ blanks, skipSpace blanks = [] ∧ ∀ fuel, 2 * input.length + 2 ≤ fuel → ∀ more,
    value? fuel room (skipSpace (input ++ more)) = some (doc, blanks ++ more)

theorem skipSpace_blanks {blanks : List Symbol} (blank : skipSpace blanks = []) (more : List Symbol) :
    skipSpace (blanks ++ more) = skipSpace more := by
  simp only [skipSpace] at blank ⊢
  simp [List.dropWhile_append, blank]

/-- A container that is a document of its own is one among others too. -/
theorem spells_of_document? (read : document? input = some doc) (within : doc.Within room)
    (container : doc.IsContainer) : Spells room input doc := by
  obtain ⟨⟨whole, rest⟩, start, ended⟩ := Option.bind_eq_some_iff.mp read
  dsimp only at ended
  split at ended
  case h_2 => cases ended
  case h_1 blank =>
    cases ended
    refine ⟨rest, blank, fun fuel enough more => ?_⟩
    obtain ⟨extra, rfl⟩ := Nat.exists_eq_add_of_le enough
    rw [skipSpace_append_of_read more (value?_nil ..) start]
    exact (persists _).value start extra more within fun _ => container

theorem Spells.document? (spells : Spells depthLimit input doc) : document? input = some doc := by
  obtain ⟨blanks, blank, read⟩ := spells
  have whole := read _ (Nat.le_refl _) []
  rw [List.append_nil, List.append_nil] at whole
  rw [Reader.document?, whole]
  simp [blank]

/-- A scalar takes one step. -/
theorem spells_of_scalar (read : ∀ fuel more, value? (fuel + 1) room (skipSpace (input ++ more)) = some (doc, more)) :
    Spells room input doc := by
  refine ⟨[], rfl, fun fuel enough more => ?_⟩
  obtain ⟨fuel, rfl⟩ := Nat.exists_eq_add_one.mpr (by omega : 0 < fuel)
  exact read fuel more

theorem spells_quote (room : Nat) (text : String) : Spells room (symbols (quote text)) (.string text) := by
  refine spells_of_scalar fun fuel more => ?_
  rw [symbols_quote, List.cons_append, List.append_assoc]
  change value? (fuel + 1) room (.char '"' :: (_ ++ .char '"' :: more)) = _
  rw [value?, stringBody?_escapes]
  simp

theorem Spells.read (spells : Spells room input doc) (enough : 2 * input.length + 2 ≤ fuel) (more : List Symbol) :
    ∃ blanks, skipSpace blanks = [] ∧ value? fuel room (skipSpace (input ++ more)) = some (doc, blanks ++ more) := by
  obtain ⟨blanks, blank, read⟩ := spells
  exact ⟨blanks, blank, read fuel enough more⟩

theorem items?_last (spells : Spells room input doc) (enough : 2 * input.length + 2 ≤ fuel) (more : List Symbol) :
    items? (fuel + 1) room (input ++ .char ']' :: more) = some ([doc], more) := by
  obtain ⟨blanks, blank, read⟩ := spells.read enough (.char ']' :: more)
  have closed : skipSpace (.char ']' :: more) = .char ']' :: more := rfl
  simp [items?, read, skipSpace_blanks blank, closed]

theorem items?_next {more rest : List Symbol} (spells : Spells room input doc) (enough : 2 * input.length + 2 ≤ fuel)
    (later : items? fuel room more = some (docs, rest)) :
    items? (fuel + 1) room (input ++ .char ',' :: more) = some (doc :: docs, rest) := by
  obtain ⟨blanks, blank, read⟩ := spells.read enough (.char ',' :: more)
  have comma : skipSpace (.char ',' :: more) = .char ',' :: more := rfl
  simp [items?, read, skipSpace_blanks blank, comma, later]

/-- Items between commas are read up to the closing bracket. -/
theorem items?_of_spells (each : List.Forall₂ (Spells room) (input :: inputs) docs)
    (enough : 2 * ([.char ','].intercalate (input :: inputs)).length + 3 ≤ fuel) (more : List Symbol) :
    items? fuel room ([.char ','].intercalate (input :: inputs) ++ .char ']' :: more) = some (docs, more) := by
  obtain ⟨fuel, rfl⟩ := Nat.exists_eq_add_one.mpr (by omega : 0 < fuel)
  induction inputs generalizing input docs fuel with
  | nil =>
    obtain ⟨doc, _, spells, last, rfl⟩ := List.forall₂_cons_left_iff.mp each
    cases last
    rw [List.intercalate_singleton] at enough ⊢
    exact items?_last spells (by omega) more
  | cons second inputs ih =>
    obtain ⟨doc, others, spells, later, rfl⟩ := List.forall₂_cons_left_iff.mp each
    rw [List.intercalate_cons_cons, List.length_append, List.length_append, List.length_singleton] at enough
    obtain ⟨fuel, rfl⟩ := Nat.exists_eq_add_one.mpr (by omega : 0 < fuel)
    rw [List.intercalate_cons_cons, List.append_assoc, List.append_assoc, List.singleton_append]
    exact items?_next spells (by omega) (ih later fuel (by omega))

theorem items?_closed (fuel : Nat) (rest : List Symbol) : items? fuel room (.char ']' :: rest) = none := by
  rcases fuel with _ | _ | fuel <;> rfl

theorem members?_closed (fuel : Nat) (rest : List Symbol) : members? fuel room (.char '}' :: rest) = none := by
  cases fuel <;> rfl

theorem skipSpace_skipSpace (input : List Symbol) : skipSpace (skipSpace input) = skipSpace input :=
  List.dropWhile_idempotent ..

theorem items?_skipSpace (fuel : Nat) (input : List Symbol) :
    items? fuel room (skipSpace input) = items? fuel room input := by
  cases fuel with
  | zero => rfl
  | succ fuel => rw [items?, items?, skipSpace_skipSpace]

theorem members?_skipSpace (fuel : Nat) (input : List Symbol) :
    members? fuel room (skipSpace input) = members? fuel room input := by
  cases fuel with
  | zero => rfl
  | succ fuel => rw [members?, members?, skipSpace_skipSpace]

/-- Where something is read that cannot begin with the closing bracket, the container is not empty. -/
theorem held?_of_read {α : Type} {closing : Char} {empty : α} {read : List Symbol → Option (α × List Symbol)}
    {result : α × List Symbol} (refuses : ∀ rest, read (.char closing :: rest) = none)
    (done : read input = some result) : held? closing empty read input = some result := by
  rw [held?, if_neg (head?_ne_of_closing fun rest closed => ?_), done]
  rw [closed, refuses] at done
  cases done

theorem Spells.array (each : List.Forall₂ (Spells room) inputs docs) :
    Spells (room + 1) (.char '[' :: ([.char ','].intercalate inputs ++ [.char ']'])) (.array docs) := by
  refine ⟨[], rfl, fun fuel enough more => ?_⟩
  rw [List.length_cons, List.length_append, List.length_singleton] at enough
  obtain ⟨fuel, rfl⟩ := Nat.exists_eq_add_one.mpr (by omega : 0 < fuel)
  have held : held? ']' [] (items? fuel room) (skipSpace ([.char ','].intercalate inputs ++ .char ']' :: more)) =
      some (docs, more) := by
    cases inputs with
    | nil =>
      cases each
      rfl
    | cons first inputs =>
      refine held?_of_read (items?_closed fuel) ?_
      rw [items?_skipSpace, items?_of_spells each (by omega)]
  rw [List.cons_append, List.append_assoc, List.singleton_append]
  change value? (fuel + 1) (room + 1) (.char '[' :: _) = _
  rw [value?_array, Nat.add_sub_cancel, held]
  rfl

/-- A member of an object: its name in quotes, and behind a colon the text of its value. -/
def memberSymbols (member : String × List Symbol) : List Symbol :=
  symbols (quote member.1) ++ .char ':' :: member.2

/-- A member and what it is read as. -/
def SpellsMember (room : Nat) (member : String × List Symbol) (read : String × Document) : Prop :=
  member.1 = read.1 ∧ Spells room member.2 read.2

theorem length_le_memberSymbols (member : String × List Symbol) :
    member.2.length + 2 ≤ (memberSymbols member).length := by
  simp [memberSymbols, symbols_quote]
  omega

theorem skipSpace_memberSymbols (name : String) (input more : List Symbol) :
    skipSpace (memberSymbols (name, input) ++ more) = .char '"' ::
      ((name.toList.flatMap escape).map .char ++ .char '"' :: .char ':' :: (input ++ more)) := by
  rw [memberSymbols, symbols_quote]
  simp [skipSpace, isSpace]

theorem members?_last (spells : Spells room input doc) (enough : 2 * input.length + 2 ≤ fuel) (name : String)
    (more : List Symbol) :
    members? (fuel + 1) room (memberSymbols (name, input) ++ .char '}' :: more) = some (some [(name, doc)], more) := by
  obtain ⟨blanks, blank, read⟩ := spells.read enough (.char '}' :: more)
  have colon : skipSpace (.char ':' :: (input ++ .char '}' :: more)) = .char ':' :: (input ++ .char '}' :: more) := rfl
  have closed : skipSpace (.char '}' :: more) = .char '}' :: more := rfl
  rw [members?, skipSpace_memberSymbols]
  simp [stringBody?_escapes, colon, read, skipSpace_blanks blank, closed]

theorem members?_next (spells : Spells room input doc) (enough : 2 * input.length + 2 ≤ fuel) (name : String)
    {more rest : List Symbol} {fields : List (String × Document)}
    (later : members? fuel room more = some (some fields, rest)) :
    members? (fuel + 1) room (memberSymbols (name, input) ++ .char ',' :: more) =
      some (some ((name, doc) :: fields), rest) := by
  obtain ⟨blanks, blank, read⟩ := spells.read enough (.char ',' :: more)
  have colon : skipSpace (.char ':' :: (input ++ .char ',' :: more)) = .char ':' :: (input ++ .char ',' :: more) := rfl
  have comma : skipSpace (.char ',' :: more) = .char ',' :: more := rfl
  rw [members?, skipSpace_memberSymbols]
  simp [stringBody?_escapes, colon, read, skipSpace_blanks blank, comma, later]

/-- Members between commas are read up to the closing brace. -/
theorem members?_of_spells {member : String × List Symbol} {members : List (String × List Symbol)}
    {fields : List (String × Document)} (each : List.Forall₂ (SpellsMember room) (member :: members) fields)
    (enough : 2 * ([.char ','].intercalate ((member :: members).map memberSymbols)).length + 3 ≤ fuel)
    (more : List Symbol) :
    members? fuel room ([.char ','].intercalate ((member :: members).map memberSymbols) ++ .char '}' :: more) =
      some (some fields, more) := by
  induction members generalizing member fields fuel with
  | nil =>
    obtain ⟨⟨_, doc⟩, _, ⟨rfl, spells⟩, last, rfl⟩ := List.forall₂_cons_left_iff.mp each
    cases last
    rw [List.map_singleton, List.intercalate_singleton] at enough ⊢
    obtain ⟨fuel, rfl⟩ := Nat.exists_eq_add_one.mpr (by omega : 0 < fuel)
    have long := length_le_memberSymbols member
    exact members?_last spells (by omega) member.1 more
  | cons second members ih =>
    obtain ⟨⟨_, doc⟩, others, ⟨rfl, spells⟩, later, rfl⟩ := List.forall₂_cons_left_iff.mp each
    rw [List.map_cons, List.map_cons, List.intercalate_cons_cons, List.length_append, List.length_append,
      List.length_singleton, ← List.map_cons] at enough
    obtain ⟨fuel, rfl⟩ := Nat.exists_eq_add_one.mpr (by omega : 0 < fuel)
    have long := length_le_memberSymbols member
    rw [List.map_cons, List.map_cons, List.intercalate_cons_cons, List.append_assoc, List.append_assoc,
      List.singleton_append, ← List.map_cons]
    exact members?_next spells (by omega) member.1 (ih later (by omega))

theorem Spells.object {members : List (String × List Symbol)} {fields : List (String × Document)}
    (each : List.Forall₂ (SpellsMember room) members fields) :
    Spells (room + 1) (.char '{' :: ([.char ','].intercalate (members.map memberSymbols) ++ [.char '}']))
      (.object fields) := by
  refine ⟨[], rfl, fun fuel enough more => ?_⟩
  rw [List.length_cons, List.length_append, List.length_singleton] at enough
  obtain ⟨fuel, rfl⟩ := Nat.exists_eq_add_one.mpr (by omega : 0 < fuel)
  have held : held? '}' (some []) (members? fuel room)
      (skipSpace ([.char ','].intercalate (members.map memberSymbols) ++ .char '}' :: more)) =
      some (some fields, more) := by
    cases members with
    | nil =>
      cases each
      rfl
    | cons first members =>
      refine held?_of_read (members?_closed fuel) ?_
      rw [members?_skipSpace, members?_of_spells each (by omega)]
  rw [List.cons_append, List.append_assoc, List.singleton_append]
  change value? (fuel + 1) (room + 1) (.char '{' :: _) = _
  rw [value?_object, Nat.add_sub_cancel, held]
  rfl

end Reader

open Reader

/-- The text of a value without numbers is read as the document that spells it out, wherever it stands. -/
theorem Verbal.spells {value : Json} {room : Nat} (verbal : value.Verbal room) :
    Spells room (symbols value.compact) value.toDocument := by
  induction verbal with
  | null => exact spells_of_scalar fun fuel more => rfl
  | bool value => cases value <;> exact spells_of_scalar fun fuel more => rfl
  | string text => exact spells_quote _ text
  | @array room items each ih =>
    have text : symbols (compact (.array items)) =
        .char '[' :: ([.char ','].intercalate (items.map (symbols ∘ compact)) ++ [.char ']']) := by
      simp [compact, compactItems_eq, symbols_intercalate]
      rfl
    rw [text, toDocument, itemDocuments_eq]
    exact .array (List.forall₂_map_left_iff.mpr (List.forall₂_map_right_iff.mpr (List.forall₂_same.mpr ih)))
  | @object room members each ih =>
    let parts := members.entries.map fun member => (member.1, symbols member.2.compact)
    have text : symbols (compact (.object members)) =
        .char '{' :: ([.char ','].intercalate (parts.map memberSymbols) ++ [.char '}']) := by
      simp [compact, compactMembers_eq, symbols_intercalate, parts, Function.comp_def, memberSymbols]
      rfl
    rw [text, toDocument, Members.documents_eq]
    refine .object (List.forall₂_map_left_iff.mpr (List.forall₂_map_right_iff.mpr (List.forall₂_same.mpr ?_)))
    exact fun member inside => ⟨rfl, ih member inside⟩

end DagConsole.Json
