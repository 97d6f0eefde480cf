import DagConsole.Text.Numeral
import Mathlib.Data.List.Induction
import Mathlib.Data.Nat.Digits.Defs
import Mathlib.Tactic.IntervalCases

/-! Numerals are read as the numbers that they were written for; in decimal, literals are read in all their spellings, and
nothing else is. -/
namespace DagConsole.Text

/-! ### Hexadecimal digits -/

theorem hexValue?_hexDigit {n : Nat} (small : n < 16) : hexValue? (hexDigit n) = some n := by
  interval_cases n <;> rfl

@[simp] theorem length_hexDigits (width n : Nat) : (hexDigits width n).length = width := by
  induction width generalizing n with
  | zero => rfl
  | succ width ih => rw [hexDigits, List.length_append, ih, List.length_singleton]

theorem hexNumber?_concat (text : List Char) (c : Char) :
    hexNumber? (text ++ [c]) = (hexNumber? text).bind fun n => (hexValue? c).map (16 * n + ·) := by
  simp [hexNumber?, List.foldlM_append]

/-- A number of few enough digits is read in full. -/
theorem hexNumber?_hexDigits {width n : Nat} (fits : n < 16 ^ width) : hexNumber? (hexDigits width n) = some n := by
  induction width generalizing n with
  | zero =>
    obtain rfl : n = 0 := by simpa using fits
    rfl
  | succ width ih =>
    have high : n / 16 < 16 ^ width := by
      rw [Nat.pow_succ] at fits
      omega
    have low := hexValue?_hexDigit (Nat.mod_lt n (by decide : 16 > 0))
    have split : 16 * (n / 16) + n % 16 = n := Nat.div_add_mod n 16
    rw [hexDigits, hexNumber?_concat, ih high, Option.bind_some, low, Option.map_some, split]

/-! ### Decimal digits -/

theorem digits?_of_isDigit {text : List Char} (given : text ≠ []) (all : ∀ c ∈ text, c.isDigit) :
    digits? text = some (Nat.ofDigitChars 10 text 0) := by
  have read : ∀ n, text.foldlM (fun n c => if c.isDigit then some (10 * n + (c.toNat - '0'.toNat)) else none) n =
      some (Nat.ofDigitChars 10 text n) := by
    clear given
    induction text with
    | nil => exact fun _ => rfl
    | cons c rest ih =>
      obtain ⟨digit, others⟩ := List.forall_mem_cons.mp all
      intro n
      rw [List.foldlM_cons, if_pos digit, Nat.ofDigitChars_cons]
      exact ih others _
  have nonempty : text.isEmpty = false := by cases text <;> trivial
  rw [digits?, nonempty]
  exact read 0

section Padded

variable {width n : Nat}

theorem toList_padded (width n : Nat) : (padded width n).toList =
    List.replicate (width - (Nat.toDigits 10 n).length) '0' ++ Nat.toDigits 10 n := by
  simp [padded, ← String.length_toList]

theorem isDigit_of_mem_padded {c : Char} (member : c ∈ (padded width n).toList) : c.isDigit := by
  rw [toList_padded, List.mem_append, List.mem_replicate] at member
  rcases member with ⟨_, rfl⟩ | digit
  · rfl
  · exact Nat.isDigit_of_mem_toDigits (by decide) (by decide) digit

theorem length_padded (some : 0 < width) (fits : n < 10 ^ width) : (padded width n).toList.length = width := by
  have short := (Nat.length_toDigits_le_iff (by decide) some).mpr fits
  rw [toList_padded, List.length_append, List.length_replicate]
  omega

theorem digits?_padded (width n : Nat) : digits? (padded width n).toList = some n := by
  have given : (padded width n).toList ≠ [] := by simp [toList_padded]
  rw [digits?_of_isDigit given fun _ => isDigit_of_mem_padded, toList_padded, Nat.ofDigitChars_append,
    Nat.ofDigitChars_replicate_zero, Nat.mul_zero, Nat.ofDigitChars_ten_toDigits]

end Padded

/-! ### Literals -/

/-- A decimal numeral of a number: its digits, after any number of zeros. -/
def IsNumeral (text : List Char) (n : Nat) : Prop :=
  ∃ zeros, text = List.replicate zeros '0' ++ Nat.toDigits 10 n

/-- A literal of an unsigned number: a numeral, perhaps after a plus sign. -/
inductive IsUnsigned : List Char → Nat → Prop where
  | plain {text : List Char} {n : Nat} (numeral : IsNumeral text n) : IsUnsigned text n
  | plus {text : List Char} {n : Nat} (numeral : IsNumeral text n) : IsUnsigned ('+' :: text) n

/-- A literal of a signed number, which may also have a minus sign. -/
inductive IsSigned : List Char → Int → Prop where
  | unsigned {text : List Char} {n : Nat} (literal : IsUnsigned text n) : IsSigned text n
  | minus {text : List Char} {n : Nat} (numeral : IsNumeral text n) : IsSigned ('-' :: text) (-n)

section Literals

variable {text : List Char} {n : Nat}

theorem isNumeral_toDigits (n : Nat) : IsNumeral (Nat.toDigits 10 n) n := ⟨0, rfl⟩

theorem IsNumeral.isDigit (numeral : IsNumeral text n) {c : Char} (member : c ∈ text) : c.isDigit := by
  obtain ⟨zeros, rfl⟩ := numeral
  rcases List.mem_append.mp member with zero | digit
  · rw [List.eq_of_mem_replicate zero]
    rfl
  · exact Nat.isDigit_of_mem_toDigits (by decide) (by decide) digit

theorem IsNumeral.given (numeral : IsNumeral text n) : text ≠ [] := by
  obtain ⟨zeros, rfl⟩ := numeral
  simp

theorem toDigits_of_isDigit {c : Char} (digit : c.isDigit) : Nat.toDigits 10 (c.toNat - '0'.toNat) = [c] := by
  obtain ⟨low, high⟩ := Char.isDigit_iff_toNat.mp digit
  rw [← Char.ofNat_toNat c]
  generalize c.toNat = code at low high
  change 48 ≤ code at low
  change code ≤ 57 at high
  interval_cases code <;> rfl

/-- Digits make a numeral of some number, the one that their places give. -/
theorem isNumeral_of_isDigit (given : text ≠ []) (all : ∀ c ∈ text, c.isDigit) :
    IsNumeral text (Nat.ofDigitChars 10 text 0) := by
  induction text using List.reverseRecOn with
  | nil => exact absurd rfl given
  | append_singleton front c ih =>
    obtain ⟨others, digit⟩ := List.forall_mem_append.mp all
    have last : c.isDigit := digit c List.mem_cons_self
    have own := toDigits_of_isDigit last
    have low : c.toNat - '0'.toNat < 10 := by
      have high := (Char.isDigit_iff_toNat.mp last).2
      change c.toNat ≤ 57 at high
      change c.toNat - 48 < 10
      omega
    rw [Nat.ofDigitChars_append, Nat.ofDigitChars_cons, Nat.ofDigitChars_nil]
    by_cases first : front = []
    · subst front
      exact ⟨0, own.symm.trans (by simp)⟩
    · obtain ⟨zeros, split⟩ := ih first others
      generalize Nat.ofDigitChars 10 front 0 = value at split
      by_cases leading : value = 0
      · subst value
        refine ⟨zeros + 1, ?_⟩
        rw [split, Nat.toDigits_zero, Nat.mul_zero, Nat.zero_add, own, List.replicate_succ']
      · refine ⟨zeros, ?_⟩
        rw [split, ← Nat.toDigits_append_toDigits (by decide) (Nat.pos_of_ne_zero leading) low, own, List.append_assoc]

/-- Only digits are read. -/
theorem isDigit_of_digits? (read : digits? text = some n) : ∀ c ∈ text, c.isDigit := by
  have each : ∀ m, text.foldlM (fun n c => if c.isDigit then some (10 * n + (c.toNat - '0'.toNat)) else none) m =
      some n → ∀ c ∈ text, c.isDigit := by
    clear read
    induction text with
    | nil => exact fun _ _ => List.forall_mem_nil _
    | cons c rest ih =>
      intro m read
      rw [List.foldlM_cons] at read
      obtain ⟨next, here, later⟩ := Option.bind_eq_some_iff.mp read
      obtain ⟨digit, -⟩ := Option.ite_none_right_eq_some.mp here
      exact List.forall_mem_cons.mpr ⟨digit, ih next later⟩
  rw [digits?] at read
  exact each 0 (Option.ite_none_left_eq_some.mp read).2

/-- The numerals are what is read, each as the number that it is a numeral of. -/
theorem digits?_eq_some_iff : digits? text = some n ↔ IsNumeral text n := by
  constructor
  · intro read
    have given : text ≠ [] := by
      rintro rfl
      cases read
    have all := isDigit_of_digits? read
    rw [digits?_of_isDigit given all] at read
    cases read
    exact isNumeral_of_isDigit given all
  · intro numeral
    rw [digits?_of_isDigit numeral.given fun _ => numeral.isDigit]
    obtain ⟨zeros, rfl⟩ := numeral
    rw [Nat.ofDigitChars_append, Nat.ofDigitChars_replicate_zero, Nat.mul_zero, Nat.ofDigitChars_ten_toDigits]

/-- A numeral starts with no sign. -/
theorem IsNumeral.ne_cons (numeral : IsNumeral text n) {c : Char} (other : c.isDigit = false) (rest : List Char) :
    text ≠ c :: rest := by
  rintro rfl
  rw [numeral.isDigit List.mem_cons_self] at other
  cases other

theorem isUnsigned_plus_iff : IsUnsigned ('+' :: text) n ↔ IsNumeral text n := by
  refine ⟨fun literal => ?_, .plus⟩
  cases literal with
  | plain numeral => exact absurd rfl (numeral.ne_cons rfl text)
  | plus numeral => exact numeral

theorem isUnsigned_iff (unmarked : ∀ rest, text ≠ '+' :: rest) : IsUnsigned text n ↔ IsNumeral text n := by
  refine ⟨fun literal => ?_, .plain⟩
  cases literal with
  | plain numeral => exact numeral
  | plus numeral => exact absurd rfl (unmarked _)

theorem isSigned_minus_iff {value : Int} :
    IsSigned ('-' :: text) value ↔ ∃ n : Nat, IsNumeral text n ∧ -(n : Int) = value := by
  constructor
  · intro literal
    cases literal with
    | unsigned literal =>
      cases literal with
      | plain numeral => exact absurd rfl (numeral.ne_cons rfl text)
    | minus numeral => exact ⟨_, numeral, rfl⟩
  · rintro ⟨n, numeral, rfl⟩
    exact .minus numeral

theorem isSigned_iff (unmarked : ∀ rest, text ≠ '-' :: rest) {value : Int} :
    IsSigned text value ↔ ∃ n : Nat, IsUnsigned text n ∧ (n : Int) = value := by
  constructor
  · intro literal
    cases literal with
    | unsigned literal => exact ⟨_, literal, rfl⟩
    | minus numeral => exact absurd rfl (unmarked _)
  · rintro ⟨n, literal, rfl⟩
    exact .unsigned literal

/-- What is read as an unsigned number are its literals, as long as it is not too large. -/
theorem unsigned?_eq_some_iff {bound : Nat} : unsigned? bound text = some n ↔ IsUnsigned text n ∧ n ≤ bound := by
  unfold unsigned?
  split
  · rw [Option.filter_eq_some_iff, digits?_eq_some_iff, isUnsigned_plus_iff, decide_eq_true_eq]
  · rename_i unmarked
    rw [Option.filter_eq_some_iff, digits?_eq_some_iff, isUnsigned_iff unmarked, decide_eq_true_eq]

/-- A literal is of one number only. -/
theorem IsUnsigned.unique {m : Nat} (one : IsUnsigned text n) (other : IsUnsigned text m) : n = m := by
  have first := unsigned?_eq_some_iff.mpr ⟨one, Nat.le_max_left n m⟩
  have second := unsigned?_eq_some_iff.mpr ⟨other, Nat.le_max_right n m⟩
  exact Option.some.inj (first.symm.trans second)

theorem signed?_eq_some_iff {low high value : Int} :
    signed? low high text = some value ↔ IsSigned text value ∧ low ≤ value ∧ value ≤ high := by
  have bounds : (decide (low ≤ value) && decide (value ≤ high)) = true ↔ low ≤ value ∧ value ≤ high := by simp
  unfold signed?
  rw [Option.filter_eq_some_iff, bounds]
  refine and_congr_left fun _ => ?_
  split
  · simp only [Option.map_eq_some_iff, Option.bind_eq_bind, Option.bind_eq_some_iff, Option.pure_def, Option.some.injEq,
      exists_exists_and_eq_and, digits?_eq_some_iff, isSigned_minus_iff]
  · rename_i body
    have unmarked : ∀ rest, '+' :: body ≠ '-' :: rest := fun rest same => by cases same
    simp only [Option.map_eq_some_iff, digits?_eq_some_iff, isSigned_iff unmarked, isUnsigned_plus_iff, Int.ofNat_eq_natCast]
  · rename_i positive unmarked
    simp only [Option.map_eq_some_iff, digits?_eq_some_iff, isSigned_iff positive, isUnsigned_iff unmarked,
      Int.ofNat_eq_natCast]

theorem isUnsigned_toString (n : Nat) : IsUnsigned (toString n).toList n := by
  rw [Nat.toString_eq_ofList_toDigits, String.toList_ofList]
  exact .plain (isNumeral_toDigits n)

end Literals
end DagConsole.Text
