import DagConsole.Json.Reader
import DagConsole.Proofs.Json.Values
import Mathlib.Tactic.SplitIfs

/-! What stands behind a document does not change how it is read. A container is read up to its closing bracket, and so
it is read alike wherever it stands: with any text behind it, with steps to spare, and inside as many other containers
as the limit on nesting leaves room for. -/
namespace DagConsole

/-- A list can be read if each of its items can. -/
theorem exists_mapM_iff {α β : Type} {f : α → Option β} {items : List α} :
    (∃ values, items.mapM f = some values) ↔ ∀ item ∈ items, ∃ value, f item = some value := by
  simp only [mapM_eq_some_iff]
  induction items with
  | nil => simp
  | cons item rest ih =>
    rw [List.forall_mem_cons, ← ih]
    constructor
    · rintro ⟨_, _ | ⟨here, later⟩⟩
      exact ⟨⟨_, here⟩, _, later⟩
    · rintro ⟨⟨value, here⟩, values, later⟩
      exact ⟨value :: values, .cons here later⟩

namespace Document

/-- A document that stands for a value, with no more than so many containers nested in each other. -/
inductive Within : Nat → Document → Prop where
  | null {room : Nat} : Within room .null
  | bool {room : Nat} (value : Bool) : Within room (.bool value)
  | integer {room : Nat} (value : Int) : Within room (.integer value)
  | float {room : Nat} (value : Number.Binary64) : Within room (.float value)
  | string {room : Nat} (text : String) : Within room (.string text)
  | array {room : Nat} {items : List Document} (each : ∀ item ∈ items, Within room item) :
      Within (room + 1) (.array items)
  | object {room : Nat} {members : List (String × Document)} (each : ∀ member ∈ members, Within room member.2) :
      Within (room + 1) (.object members)

def IsContainer : Document → Prop
  | .array _ | .object _ => True
  | _ => False

theorem Within.value? {room : Nat} {doc : Document} (within : doc.Within room) : ∃ value, doc.value? = some value := by
  induction within with
  | null | bool | integer | float | string => exact ⟨_, rfl⟩
  | array each ih =>
    obtain ⟨values, read⟩ := exists_mapM_iff.mpr ih
    exact ⟨.array values, by rw [Document.value?, itemValues?_eq, read, Option.map_some]⟩
  | @object _ members each ih =>
    have named : ∀ member ∈ members, ∃ field, member.2.value?.map (member.1, ·) = some field := by
      intro member inside
      obtain ⟨value, stands⟩ := ih member inside
      exact ⟨(member.1, value), by rw [stands, Option.map_some]⟩
    obtain ⟨fields, read⟩ := exists_mapM_iff.mpr named
    exact ⟨.ofFields fields, by rw [Document.value?, memberValues?_eq, read, Option.map_some]⟩

end Document

namespace Json.Reader

open Number (Numeral)

theorem takeWhile_append_of_stops {α : Type} {p : α → Bool} {xs : List α} (ys : List α)
    (stops : xs.dropWhile p ≠ []) :
    (xs ++ ys).takeWhile p = xs.takeWhile p ∧ (xs ++ ys).dropWhile p = xs.dropWhile p ++ ys := by
  induction xs with
  | nil => exact absurd rfl stops
  | cons x rest ih =>
    by_cases pass : p x
    · rw [List.dropWhile_cons_of_pos pass] at stops
      obtain ⟨taken, dropped⟩ := ih stops
      simp [pass, taken, dropped]
    · simp [pass]

variable {input rest tail : List Symbol} {symbol : Symbol} {fuel depth room : Nat} {doc : Document} (more : List Symbol)

/-! ### White space -/

theorem skipSpace_append (stops : skipSpace input ≠ []) : skipSpace (input ++ more) = skipSpace input ++ more :=
  (takeWhile_append_of_stops more stops).2

theorem skipSpace_append_of_cons (next : skipSpace input = symbol :: tail) :
    skipSpace (input ++ more) = symbol :: (tail ++ more) := by
  rw [skipSpace_append more (by simp [next]), next, List.cons_append]

/-- There is something to skip to where something is read. -/
theorem skipSpace_append_of_read {α : Type} {read : List Symbol → Option α} (empty : read [] = none) {result : α}
    (done : read (skipSpace input) = some result) : skipSpace (input ++ more) = skipSpace input ++ more := by
  refine skipSpace_append more fun ended => ?_
  rw [ended, empty] at done
  cases done

theorem ne_nil_of_skipSpace (next : skipSpace input = symbol :: tail) : input ≠ [] := by
  rintro rfl
  cases next

/-! ### Numbers -/

/-- The digits that an input begins with, and what follows them. -/
def digits (input : List Symbol) : List Nat × List Symbol :=
  ((input.takeWhile Symbol.isDigit).map Symbol.digit, input.dropWhile Symbol.isDigit)

/-- The digits behind a point, if there is a point. -/
def fraction (input : List Symbol) : Bool × List Nat × List Symbol :=
  match input with
  | .char '.' :: rest => (true, digits rest)
  | _ => (false, [], input)

/-- Whether an exponent follows. -/
def mark (input : List Symbol) : Bool × List Symbol :=
  match input with
  | .char 'e' :: rest | .char 'E' :: rest => (true, rest)
  | _ => (false, input)

/-- Whether a number is negative, by the sign that it may have. -/
def sign (input : List Symbol) : Bool × List Symbol :=
  match input with
  | .char '-' :: rest => (true, rest)
  | .char '+' :: rest => (false, rest)
  | _ => (false, input)

theorem magnitude?_eq (input : List Symbol) : magnitude? input =
    if (digits input).1.isEmpty || ((digits input).1.head? == some 0 && (digits input).1.length > 1) then none
    else
      let (point, tenths, rest) := fraction (digits input).2
      if point && tenths.isEmpty then none
      else
        let (marked, rest) := mark rest
        if !marked then some (⟨(digits input).1, tenths, 0⟩, !point, rest)
        else
          let (negative, rest) := sign rest
          if (digits rest).1.isEmpty then none
          else
            let n : Int := Numeral.ofDigits (digits rest).1
            some (⟨(digits input).1, tenths, if negative then -n else n⟩, false, (digits rest).2) := rfl

theorem digits_append (stops : (digits input).2 ≠ []) :
    digits (input ++ more) = ((digits input).1, (digits input).2 ++ more) := by
  obtain ⟨taken, dropped⟩ := takeWhile_append_of_stops more stops
  rw [digits, taken, dropped]
  rfl

theorem fraction_append (stops : (fraction input).2.2 ≠ []) :
    fraction (input ++ more) = ((fraction input).1, (fraction input).2.1, (fraction input).2.2 ++ more) := by
  cases input with
  | nil => exact absurd rfl stops
  | cons symbol tail =>
    rw [List.cons_append]
    by_cases point : symbol = .char '.'
    · subst point
      exact congrArg (true, ·) (digits_append more stops)
    · simp [fraction, point]

theorem mark_append (stops : (mark input).2 ≠ []) :
    mark (input ++ more) = ((mark input).1, (mark input).2 ++ more) := by
  cases input with
  | nil => exact absurd rfl stops
  | cons symbol tail =>
    rw [List.cons_append]
    unfold mark
    split <;> simp_all

theorem sign_append (stops : (sign input).2 ≠ []) :
    sign (input ++ more) = ((sign input).1, (sign input).2 ++ more) := by
  cases input with
  | nil => exact absurd rfl stops
  | cons symbol tail =>
    rw [List.cons_append]
    unfold sign
    split <;> simp_all

theorem magnitude?_append {numeral : Numeral} {integral : Bool}
    (read : magnitude? input = some (numeral, integral, rest)) (stops : rest ≠ []) :
    magnitude? (input ++ more) = some (numeral, integral, rest ++ more) := by
  -- What is left over at the end was left over by each part before.
  have marked : (mark (fraction (digits input).2).2.2).2 ≠ [] := by
    rw [magnitude?_eq] at read
    simp only at read
    intro ended
    rw [ended] at read
    split_ifs at read <;> cases read <;> exact stops rfl
  have fractional : (fraction (digits input).2).2.2 ≠ [] := fun ended => marked (by rw [ended]; rfl)
  have whole : (digits input).2 ≠ [] := fun ended => fractional (by rw [ended]; rfl)
  rw [magnitude?_eq] at read ⊢
  rw [digits_append more whole]
  simp only [fraction_append more fractional, mark_append more marked] at read ⊢
  by_cases powerless : (!(mark (fraction (digits input).2).2.2).1) = true
  · rw [if_pos powerless] at read ⊢
    split_ifs at read ⊢
    cases read
    rfl
  · rw [if_neg powerless] at read ⊢
    have powered : (digits (sign (mark (fraction (digits input).2).2.2).2).2).2 ≠ [] := by
      intro ended
      rw [ended] at read
      split_ifs at read <;> cases read <;> exact stops rfl
    have signed : (sign (mark (fraction (digits input).2).2.2).2).2 ≠ [] := fun ended => powered (by rw [ended]; rfl)
    rw [sign_append more signed, digits_append more powered]
    split_ifs at read ⊢ <;> cases read <;> rfl

/-- A number begins with a digit. -/
theorem digit_of_magnitude? {numeral : Numeral} {integral : Bool}
    (read : magnitude? input = some (numeral, integral, rest)) : ∃ c tail, input = .char c :: tail ∧ c.isDigit := by
  have given : (digits input).1 ≠ [] := by
    intro none
    rw [magnitude?_eq, none] at read
    cases read
  cases input with
  | nil => exact absurd rfl given
  | cons symbol tail =>
    cases symbol with
    | stray byte => exact absurd rfl given
    | char c =>
      by_cases digit : c.isDigit
      · exact ⟨c, tail, rfl, digit⟩
      · refine absurd ?_ given
        simp [digits, Symbol.isDigit, digit]

theorem not_isContainer_number (negative : Bool) (numeral : Numeral) (integral : Bool) :
    ¬(number negative numeral integral).IsContainer := by
  unfold number
  dsimp only
  split_ifs
  · exact id
  · exact id
  · split <;> exact id

/-! ### Strings -/

theorem pieces?_append {pieces : List Piece} (read : pieces? input = some (pieces, rest)) :
    pieces? (input ++ more) = some (pieces, rest ++ more) := by
  fun_induction pieces? input generalizing pieces rest with
  | case1 => cases read
  | case2 =>
    cases read
    rfl
  | case3 a b c d later ih =>
    simp only [Option.bind_eq_bind, Option.bind_eq_some_iff] at read
    obtain ⟨unit, number, ⟨others, _⟩, follows, same⟩ := read
    cases same
    simp [pieces?, number, ih follows]
  | case4 letter later _ ih =>
    simp only [Option.bind_eq_bind, Option.bind_eq_some_iff] at read
    obtain ⟨c, escaped, ⟨others, _⟩, follows, same⟩ := read
    cases same
    have apart : letter ≠ 'u' := by
      rintro rfl
      cases escaped
    rw [List.cons_append, List.cons_append, pieces?]
    · simp [escaped, ih follows]
    · simp [apart]
  | case5 c later _ _ refused => cases read
  | case6 c later quote unit letter legal ih =>
    simp only [Option.bind_eq_bind, Option.bind_eq_some_iff] at read
    obtain ⟨⟨others, _⟩, follows, same⟩ := read
    cases same
    have plain : c ≠ '\\' := fun slash => legal (.inr slash)
    rw [List.cons_append, pieces?, if_neg legal]
    · simp [ih follows]
    · exact quote
    · simp [plain]
    · simp [plain]
  | case7 byte later ih =>
    simp only [Option.bind_eq_bind, Option.bind_eq_some_iff] at read
    obtain ⟨⟨others, _⟩, follows, same⟩ := read
    cases same
    simp [pieces?, ih follows]

theorem stringBody?_append {text : Option (List Char)} (read : stringBody? input = some (text, rest)) :
    stringBody? (input ++ more) = some (text, rest ++ more) := by
  obtain ⟨⟨pieces, _⟩, split, same⟩ := Option.map_eq_some_iff.mp read
  cases same
  rw [stringBody?, pieces?_append more split, Option.map_some]

/-! ### Values -/

theorem value?_nil (fuel depth : Nat) : value? fuel depth [] = none := by
  cases fuel <;> rfl

/-- Where a number begins, a number is read. -/
theorem value?_digit (fuel depth : Nat) {c : Char} (digit : c.isDigit) (tail : List Symbol) :
    value? (fuel + 1) depth (.char c :: tail) = (magnitude? (.char c :: tail)).map
      fun (numeral, integral, rest) => (number false numeral integral, rest) := by
  have apart (other : Char) (letter : other.isDigit = false) : c ≠ other := by
    rintro rfl
    rw [letter] at digit
    cases digit
  rw [value?]
  · cases magnitude? (.char c :: tail) <;> rfl
  all_goals simp [apart]

/-- What a container holds, from behind its opening bracket: nothing if the closing one follows, else what is read. -/
def held? {α : Type} (closing : Char) (empty : α) (read : List Symbol → Option (α × List Symbol))
    (input : List Symbol) : Option (α × List Symbol) :=
  if input.head? = some (.char closing) then some (empty, input.tail) else read input

theorem head?_ne_of_closing {closing : Char} (others : ∀ rest, input = .char closing :: rest → False) :
    input.head? ≠ some (.char closing) := by
  cases input with
  | nil => nofun
  | cons symbol rest =>
    intro closed
    cases closed
    exact others rest rfl

theorem value?_array (fuel depth : Nat) (rest : List Symbol) : value? (fuel + 1) depth (.char '[' :: rest) =
    (held? ']' [] (items? fuel (depth - 1)) (skipSpace rest)).map
      fun (items, rest) => (if depth = 0 then .invalid else .array items, rest) := by
  rw [value?]
  split
  case h_1 tail closed => rw [closed]; rfl
  case h_2 others =>
    rw [held?, if_neg (head?_ne_of_closing others)]
    cases items? fuel (depth - 1) (skipSpace rest) <;> rfl

theorem value?_object (fuel depth : Nat) (rest : List Symbol) : value? (fuel + 1) depth (.char '{' :: rest) =
    (held? '}' (some []) (members? fuel (depth - 1)) (skipSpace rest)).map
      fun (members, rest) => (if depth = 0 then .invalid else members.elim .invalid .object, rest) := by
  rw [value?]
  split
  case h_1 tail closed => rw [closed]; rfl
  case h_2 others =>
    rw [held?, if_neg (head?_ne_of_closing others)]
    cases members? fuel (depth - 1) (skipSpace rest) <;> rfl

theorem items?_nil (fuel depth : Nat) : items? fuel depth [] = none := by
  cases fuel with
  | zero => rfl
  | succ fuel =>
    rw [items?, skipSpace, List.dropWhile_nil, value?_nil]
    rfl

theorem members?_nil (fuel depth : Nat) : members? fuel depth [] = none := by
  cases fuel <;> rfl

section

variable {α : Type} {closing : Char} {empty result : α} {read again : List Symbol → Option (α × List Symbol)}

theorem held?_nil (none : read [] = none) : held? closing empty read [] = .none := none

theorem held?_append (none : read [] = none) (held : held? closing empty read input = some (result, rest))
    (later : read input = some (result, rest) → again (input ++ more) = some (result, rest ++ more)) :
    held? closing empty again (input ++ more) = some (result, rest ++ more) := by
  cases input with
  | nil =>
    rw [held?_nil none] at held
    cases held
  | cons symbol tail =>
    unfold held? at held ⊢
    rw [List.cons_append, List.head?_cons] at *
    split_ifs at held ⊢
    · cases held
      rfl
    · exact later held

end

/-- What is read in so many steps is also read with more steps, with room for what it holds, and with more behind. A
value at the very end has to be a container: what comes behind a number could be a part of it. -/
structure Persists (fuel : Nat) : Prop where
  value : ∀ {depth input doc rest}, value? fuel depth input = some (doc, rest) → ∀ {room} extra more, doc.Within room →
    (rest = [] → doc.IsContainer) → value? (fuel + extra) room (input ++ more) = some (doc, rest ++ more)
  items : ∀ {depth input docs rest}, items? fuel depth input = some (docs, rest) → ∀ {room} extra more,
    (∀ doc ∈ docs, doc.Within room) → items? (fuel + extra) room (input ++ more) = some (docs, rest ++ more)
  members : ∀ {depth input members rest}, members? fuel depth input = some (some members, rest) →
    ∀ {room} extra more, (∀ member ∈ members, member.2.Within room) →
      members? (fuel + extra) room (input ++ more) = some (some members, rest ++ more)

namespace Persists

variable (persists : Persists fuel)

include persists

/-- A value in front of a comma or a bracket. -/
theorem value_in_front (read : value? fuel depth (skipSpace input) = some (doc, rest))
    (next : skipSpace rest = symbol :: tail) (extra : Nat) (within : doc.Within room) :
    value? (fuel + extra) room (skipSpace (input ++ more)) = some (doc, rest ++ more) := by
  rw [skipSpace_append_of_read more (value?_nil ..) read]
  exact persists.value read extra more within fun ended => absurd ended (ne_nil_of_skipSpace next)

theorem next_value (read : value? (fuel + 1) depth input = some (doc, rest)) (extra : Nat) (within : doc.Within room)
    (ends : rest = [] → doc.IsContainer) :
    value? (fuel + 1 + extra) room (input ++ more) = some (doc, rest ++ more) := by
  -- What the unfolding makes of a container is less than its equation says, so the reading is kept as a whole too.
  have whole := read
  rw [Nat.add_right_comm]
  unfold value? at read
  split at read
  iterate 3
    · cases read
      rfl
  · obtain ⟨⟨text, after⟩, spelled, same⟩ := Option.bind_eq_some_iff.mp read
    cases same
    rw [List.cons_append, value?, stringBody?_append more spelled]
    rfl
  · obtain ⟨⟨items, after⟩, held, same⟩ := Option.map_eq_some_iff.mp (value?_array .. ▸ whole)
    cases same
    split_ifs at within ⊢
    · cases within
    · cases within with
      | array each =>
        rw [List.cons_append, value?_array, Nat.add_sub_cancel,
          skipSpace_append_of_read more (held?_nil (items?_nil ..)) held,
          held?_append more (items?_nil ..) held fun read => persists.items read extra more each]
        rfl
  · obtain ⟨⟨members, after⟩, held, same⟩ := Option.map_eq_some_iff.mp (value?_object .. ▸ whole)
    cases same
    split_ifs at within ⊢
    · cases within
    · cases members with
      | none => cases within
      | some members =>
        cases within with
        | object each =>
          rw [List.cons_append, value?_object, Nat.add_sub_cancel,
            skipSpace_append_of_read more (held?_nil (members?_nil ..)) held,
            held?_append more (members?_nil ..) held fun read => persists.members read extra more each]
          rfl
  · obtain ⟨⟨numeral, integral, after⟩, spelled, same⟩ := Option.bind_eq_some_iff.mp read
    cases same
    have stops : rest ≠ [] := fun ended => not_isContainer_number _ _ _ (ends ended)
    rw [List.cons_append, value?, magnitude?_append more spelled stops]
    rfl
  · obtain ⟨⟨numeral, integral, after⟩, spelled, same⟩ := Option.bind_eq_some_iff.mp read
    cases same
    have stops : rest ≠ [] := fun ended => not_isContainer_number _ _ _ (ends ended)
    obtain ⟨c, tail, rfl, digit⟩ := digit_of_magnitude? spelled
    rw [List.cons_append, value?_digit _ _ digit, ← List.cons_append, magnitude?_append more spelled stops]
    rfl

theorem next_items {docs : List Document} (read : items? (fuel + 1) depth input = some (docs, rest)) (extra : Nat)
    (within : ∀ doc ∈ docs, doc.Within room) :
    items? (fuel + 1 + extra) room (input ++ more) = some (docs, rest ++ more) := by
  rw [Nat.add_right_comm, items?]
  rw [items?] at read
  obtain ⟨⟨item, after⟩, first, read⟩ := Option.bind_eq_some_iff.mp read
  dsimp only at read
  split at read
  case h_1 tail comma =>
    obtain ⟨⟨items, _⟩, others, same⟩ := Option.bind_eq_some_iff.mp read
    cases same
    obtain ⟨fits, each⟩ := List.forall_mem_cons.mp within
    rw [persists.value_in_front more first comma extra fits]
    simp [skipSpace_append_of_cons more comma, persists.items others extra more each]
  case h_2 tail closed =>
    cases read
    rw [persists.value_in_front more first closed extra (within item (List.mem_singleton_self item))]
    simp [skipSpace_append_of_cons more closed]
  case h_3 => cases read

theorem next_members {members : List (String × Document)}
    (read : members? (fuel + 1) depth input = some (some members, rest)) (extra : Nat)
    (within : ∀ member ∈ members, member.2.Within room) :
    members? (fuel + 1 + extra) room (input ++ more) = some (some members, rest ++ more) := by
  rw [Nat.add_right_comm, members?]
  rw [members?] at read
  split at read
  case h_2 => cases read
  case h_1 tail quote =>
    obtain ⟨⟨name, behind⟩, spelled, read⟩ := Option.bind_eq_some_iff.mp read
    dsimp only at read
    split at read
    case h_2 => cases read
    case h_1 tail colon =>
      obtain ⟨⟨value, after⟩, first, read⟩ := Option.bind_eq_some_iff.mp read
      dsimp only at read
      simp only [skipSpace_append_of_cons more quote, stringBody?_append more spelled, Option.bind_eq_bind,
        Option.bind_some, skipSpace_append_of_cons more colon]
      split at read
      case h_1 tail comma =>
        obtain ⟨⟨later, _⟩, others, same⟩ := Option.bind_eq_some_iff.mp read
        obtain ⟨both, rfl⟩ := Prod.mk.inj (Option.some.inj same)
        simp only [Option.bind_eq_bind, Option.bind_eq_some_iff, Option.map_eq_some_iff, Option.pure_def,
          Option.some.injEq] at both
        obtain ⟨_, ⟨name, rfl, rfl⟩, behind, rfl, rfl⟩ := both
        obtain ⟨fits, each⟩ := List.forall_mem_cons.mp within
        rw [persists.value_in_front more first comma extra fits]
        simp [skipSpace_append_of_cons more comma, persists.members others extra more each]
      case h_2 tail closed =>
        obtain ⟨only, rfl⟩ := Prod.mk.inj (Option.some.inj read)
        simp only [Option.map_map, Option.map_eq_some_iff] at only
        obtain ⟨name, rfl, rfl⟩ := only
        rw [persists.value_in_front more first closed extra (within _ (List.mem_singleton_self _))]
        simp [skipSpace_append_of_cons more closed]
      case h_3 => cases read

end Persists

theorem persists (fuel : Nat) : Persists fuel := by
  induction fuel with
  | zero =>
    constructor <;> intros <;> contradiction
  | succ fuel ih =>
    constructor
    case value => exact fun read _ extra more within ends => ih.next_value more read extra within ends
    case items => exact fun read _ extra more within => ih.next_items more read extra within
    case members => exact fun read _ extra more within => ih.next_members more read extra within

end Json.Reader

end DagConsole
