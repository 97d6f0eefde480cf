import DagConsole.Text.Blank
import Mathlib.Data.List.TakeWhile

/-! The words of a text are its pieces between blanks, less the empty ones. -/
namespace DagConsole.Text

theorem isBlank_of_isDigit {c : Char} (digit : c.isDigit) : isBlank c = false := by
  obtain ⟨low, high⟩ := Char.isDigit_iff_toNat.mp digit
  change 48 ≤ c.toNat at low
  change c.toNat ≤ 57 at high
  simp [isBlank]
  omega

theorem words_eq_filter_splitOnP (text : List Char) :
    words text = (text.splitOnP isBlank).filter fun piece => !piece.isEmpty := by
  have collected : ∀ word, wordsFrom word text =
      (List.splitOnPPrepend isBlank text word).filter fun piece => !piece.isEmpty := by
    induction text with
    | nil =>
      intro word
      cases word <;> simp [wordsFrom]
    | cons c rest ih =>
      intro word
      unfold wordsFrom
      rw [List.splitOnPPrepend_cons_eq_if, List.splitOnP_eq_splitOnPPrepend]
      split
      · rw [ih]
        cases word <;> simp
      · exact ih (c :: word)
  rw [words, collected, List.splitOnPPrepend_nil_right]

/-- Texts without blanks are the words of what joins them with spaces. -/
theorem words_intercalate {parts : List (List Char)} (given : ∀ part ∈ parts, part ≠ [])
    (solid : ∀ part ∈ parts, ∀ c ∈ part, isBlank c = false) : words ([' '].intercalate parts) = parts := by
  rw [words_eq_filter_splitOnP]
  induction parts with
  | nil => rfl
  | cons part rest ih =>
    obtain ⟨here, others⟩ := List.forall_mem_cons.mp given
    obtain ⟨whole, apart⟩ := List.forall_mem_cons.mp solid
    have kept (pieces : List (List Char)) : ((part :: pieces).filter fun piece => !piece.isEmpty) =
        part :: pieces.filter fun piece => !piece.isEmpty := List.filter_cons_of_pos (by simpa using here)
    cases rest with
    | nil =>
      rw [List.intercalate_singleton, List.splitOnP_eq_singleton whole, kept, List.filter_nil]
    | cons next rest =>
      rw [List.intercalate_cons_cons, List.append_assoc, List.singleton_append,
        List.splitOnP_append_cons_of_forall_mem whole ' ' (by decide), kept, ih others apart]

/-- A blank ends a word and belongs to none. -/
theorem words_append_blank (text : List Char) {c : Char} (blank : isBlank c) (rest : List Char) :
    words (text ++ c :: rest) = words text ++ words rest := by
  simp only [words_eq_filter_splitOnP]
  rw [List.splitOnP_append_cons text rest blank, List.filter_append]

theorem words_cons_blank {c : Char} (blank : isBlank c) (text : List Char) : words (c :: text) = words text :=
  words_append_blank [] blank text

theorem words_append_blanks (text : List Char) {blanks : List Char} (all : ∀ c ∈ blanks, isBlank c) :
    words (text ++ blanks) = words text := by
  induction blanks generalizing text with
  | nil => rw [List.append_nil]
  | cons c rest ih =>
    obtain ⟨blank, others⟩ := List.forall_mem_cons.mp all
    have none : words rest = [] := ih [] others
    rw [words_append_blank text blank, none, List.append_nil]

theorem words_dropWhile (text : List Char) : words (text.dropWhile isBlank) = words text := by
  induction text with
  | nil => rfl
  | cons c rest ih =>
    by_cases blank : isBlank c
    · rw [List.dropWhile_cons_of_pos blank, ih, words_cons_blank blank]
    · rw [List.dropWhile_cons_of_neg blank]

theorem words_dropEndWhile (text : List Char) : words (dropEndWhile isBlank text) = words text := by
  have blanks : ∀ c ∈ (text.reverse.takeWhile isBlank).reverse, isBlank c := by
    intro c member
    exact List.mem_takeWhile_imp (List.mem_reverse.mp member)
  have whole : dropEndWhile isBlank text ++ (text.reverse.takeWhile isBlank).reverse = text := by
    rw [dropEndWhile, ← List.reverse_append, List.takeWhile_append_dropWhile, List.reverse_reverse]
  calc words (dropEndWhile isBlank text)
    _ = words (dropEndWhile isBlank text ++ (text.reverse.takeWhile isBlank).reverse) :=
      (words_append_blanks _ blanks).symm
    _ = words text := by rw [whole]

/-- The blanks around a text are between no words. -/
theorem words_trimBlanks (text : List Char) : words (trimBlanks text) = words text := by
  rw [trimBlanks, words_dropEndWhile, words_dropWhile]

end DagConsole.Text
