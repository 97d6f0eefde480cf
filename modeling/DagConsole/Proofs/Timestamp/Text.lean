import DagConsole.Proofs.Json.Restoring
import DagConsole.Proofs.Text.Numeral
import DagConsole.Proofs.Timestamp.Calendar
import DagConsole.Timestamp.Reader
import Mathlib.Data.List.DropRight

/-! Timestamps are read back from the text that is written for them, which has one form out of the many that are
accepted. -/
namespace DagConsole.Timestamp

namespace Reader

variable {n : Nat} (rest : List Char)

theorem fixed_padded {count : Nat} (some : 0 < count) (fits : n < 10 ^ count) :
    fixed count ((Text.padded count n).toList ++ rest) = .some (n, rest) := by
  have length := Text.length_padded some fits
  have enough : count ≤ ((Text.padded count n).toList ++ rest).length := by
    rw [List.length_append, length]
    exact Nat.le_add_right _ _
  rw [fixed, if_pos enough, List.take_left' length, List.drop_left' length, Text.digits?_padded, Option.map_some]

theorem twoDigits_padded {low high : Nat} (lower : low ≤ n) (upper : n ≤ high) (short : high < 100) :
    twoDigits low high ((Text.padded 2 n).toList ++ rest) = some (n, rest) := by
  have fits : n < 10 ^ 2 := by omega
  rw [twoDigits, fixed_padded rest (by decide) fits]
  exact if_pos ⟨lower, upper⟩

/-- Years after the beginning of the era have no sign. -/
theorem year_unsigned (fits : n < 10 ^ 4) : year ((Text.padded 4 n).toList ++ rest) = some ((n : Int), rest) := by
  have length := Text.length_padded (by decide) fits
  have digit : ∀ c ∈ ((Text.padded 4 n).toList ++ rest).head?, c.isDigit := by
    intro c first
    have given : (Text.padded 4 n).toList ≠ [] := List.ne_nil_of_length_pos (by omega)
    rw [List.head?_append_of_ne_nil _ given] at first
    exact Text.isDigit_of_mem_padded (List.mem_of_mem_head? first)
  have read := fixed_padded rest (by decide) fits
  generalize (Text.padded 4 n).toList ++ rest = text at *
  unfold year
  split
  · exact absurd (digit '-' rfl) (by decide)
  · exact absurd (digit '+' rfl) (by decide)
  · rw [read, Option.map_some]

theorem year_written {y : Int} (low : -9999 ≤ y) (high : y ≤ 9999) :
    year ((if 0 ≤ y then Text.padded 4 y.toNat else "-" ++ Text.padded 6 (-y).toNat).toList ++ rest) =
      some (y, rest) := by
  by_cases after : 0 ≤ y
  · rw [if_pos after, year_unsigned rest (by omega : y.toNat < 10 ^ 4), Int.toNat_of_nonneg after]
  · have before : ((-y).toNat : Int) = -y := Int.toNat_of_nonneg (by omega)
    have ordinary : ¬ (9999 < (-y).toNat ∨ (-y).toNat = 0) := by omega
    rw [if_neg after, String.toList_append]
    change year ('-' :: ((Text.padded 6 (-y).toNat).toList ++ rest)) = _
    simp only [year, fixed_padded rest (by decide) (by omega : (-y).toNat < 10 ^ 6), Option.bind_eq_bind,
      Option.bind_some, true_and, if_true, if_neg ordinary, before, Int.neg_neg]

theorem date_written {d : CalendarDate} (low : -9999 ≤ d.year) (high : d.year ≤ 9999) (january : 1 ≤ d.month)
    (december : d.month ≤ 12) (first : 1 ≤ d.day) (last : d.day ≤ CalendarDate.monthLength d.year d.month) :
    date (d.text.toList ++ rest) = some (d, rest) := by
  have short : CalendarDate.monthLength d.year d.month < 100 := by
    unfold CalendarDate.monthLength
    split <;> first | omega | split <;> omega
  have split : d.text.toList ++ rest = (if 0 ≤ d.year then Text.padded 4 d.year.toNat else
      "-" ++ Text.padded 6 (-d.year).toNat).toList ++ ('-' :: ((Text.padded 2 d.month).toList ++
        ('-' :: ((Text.padded 2 d.day).toList ++ rest)))) := by
    simp [CalendarDate.text]
  rw [split, date, year_written _ low high]
  simp only [Option.bind_eq_bind, Option.bind_some, List.head?_cons, BEq.rfl, separator,
    twoDigits_padded _ january december (by decide), twoDigits_padded _ first last short, Option.pure_def]

/-- Without its last zeros a text is as long again with as many zeros. -/
theorem rdropWhile_append_zeros (digits : List Char) : digits.rdropWhile (· == '0') ++
    List.replicate (digits.length - (digits.rdropWhile (· == '0')).length) '0' = digits := by
  have split : digits.rdropWhile (· == '0') ++ digits.rtakeWhile (· == '0') = digits :=
    List.rdropWhile_append_rtakeWhile
  have length := congrArg List.length split
  rw [List.length_append] at length
  have zeros : digits.rtakeWhile (· == '0') =
      List.replicate (digits.length - (digits.rdropWhile (· == '0')).length) '0' := by
    refine List.eq_replicate_iff.mpr ⟨by omega, fun c member => ?_⟩
    simpa using List.mem_rtakeWhile_imp (p := (· == '0')) member
  rw [← zeros, split]

theorem fraction_written (fits : n < 10 ^ 9) :
    fraction ((fractionText n).toList ++ 'Z' :: rest) = some (n, 'Z' :: rest) := by
  by_cases whole : n = 0
  · subst whole
    rfl
  · let digits := (Text.padded 9 n).toList
    let kept := digits.rdropWhile (· == '0')
    have form : (fractionText n).toList = '.' :: kept := by
      simp [fractionText, whole, kept, digits, List.rdropWhile]
    have length : digits.length = 9 := Text.length_padded (by decide) fits
    have padding : kept ++ List.replicate (9 - kept.length) '0' = digits := length ▸ rdropWhile_append_zeros digits
    have first : kept <+: digits := List.rdropWhile_prefix _ _
    have short : kept.length ≤ 9 := length ▸ first.length_le
    have all : ∀ c ∈ kept, c.isDigit := fun c member => Text.isDigit_of_mem_padded (first.mem member)
    have given : kept ≠ [] := by
      intro none
      have read := Text.digits?_padded 9 n
      rw [show (Text.padded 9 n).toList = digits from rfl, ← padding, none] at read
      exact whole (Option.some.inj read).symm
    have run : (kept ++ 'Z' :: rest).takeWhile Char.isDigit = kept := by
      rw [List.takeWhile_append_of_pos all]
      simp
    rw [form, List.cons_append, fraction, if_pos (.inl rfl)]
    simp only [run]
    rw [if_neg (by simp [given, short]), padding, Text.digits?_padded, Option.map_some, List.drop_left]

theorem timeOfDay_written {hour minute second : Nat} (hours : hour ≤ 23) (minutes : minute ≤ 59) (seconds : second ≤ 59)
    (fits : n < 10 ^ 9) :
    timeOfDay ((Text.padded 2 hour).toList ++ ':' :: ((Text.padded 2 minute).toList ++
        ':' :: ((Text.padded 2 second).toList ++ ((fractionText n).toList ++ 'Z' :: rest)))) =
      some (((hour * 3600 + minute * 60 + second : Nat) : Int) * nanosecondsPerSecond + n, 'Z' :: rest) := by
  rw [timeOfDay, twoDigits_padded _ (Nat.zero_le _) hours (by decide)]
  simp only [Option.bind_eq_bind, Option.bind_some, List.head?_cons, BEq.rfl, nextPart,
    twoDigits_padded _ (Nat.zero_le _) minutes (by decide),
    twoDigits_padded _ (Nat.zero_le _) (by omega : second ≤ 60) (by decide), fraction_written rest fits, Option.pure_def,
    Nat.min_eq_left seconds]
  push_cast
  rfl

end Reader

/-- The text is that of the date, of the time of day and of what is left of the second. -/
theorem toList_text {t : Timestamp} {days : Int} {ofDay part : Nat} (before : ofDay < 86400) (fits : part < 10 ^ 9)
    (whole : t.nanoseconds = (days * 86400 + ofDay) * 1000000000 + part) : t.text.toList =
      (CalendarDate.ofDays days).text.toList ++ 'T' :: ((Text.padded 2 (ofDay / 3600)).toList ++
        ':' :: ((Text.padded 2 (ofDay / 60 % 60)).toList ++ ':' :: ((Text.padded 2 (ofDay % 60)).toList ++
          ((fractionText part).toList ++ ['Z'])))) := by
  have seconds : t.nanoseconds / 1000000000 = days * 86400 + ofDay := by omega
  have left : (t.nanoseconds % 1000000000).toNat = part := by omega
  have date : (days * 86400 + ofDay) / 86400 = days := by omega
  have time : ((ofDay : Int) % 86400).toNat = ofDay := by omega
  simp [text, nanosecondsPerSecond, secondsPerDay, seconds, left, date, time]

/-- What was read is in range, and so it is when it is read again. -/
theorem ofText?_text {t : Timestamp} (low : earliest ≤ t.nanoseconds) (high : t.nanoseconds ≤ latest) :
    ofText? t.text = some t := by
  obtain ⟨days, ofDay, part, before, fits, whole⟩ : ∃ (days : Int) (ofDay part : Nat), ofDay < 86400 ∧ part < 10 ^ 9 ∧
      t.nanoseconds = (days * 86400 + ofDay) * 1000000000 + part :=
    ⟨t.nanoseconds / 1000000000 / 86400, (t.nanoseconds / 1000000000 % 86400).toNat,
      (t.nanoseconds % 1000000000).toNat, by omega, by omega, by omega⟩
  have bounds : -4371587 ≤ days ∧ days ≤ 2932895 := by
    simp only [earliest, latest, nanosecondsPerSecond] at low high
    omega
  obtain ⟨january, december, first, last⟩ := CalendarDate.ofDays_exists days
  obtain ⟨early, late⟩ := CalendarDate.year_bounds bounds.1 bounds.2
  have clock : ofDay / 3600 * 3600 + ofDay / 60 % 60 * 60 + ofDay % 60 = ofDay := by omega
  have instant : (days * secondsPerDay - 0) * nanosecondsPerSecond + (ofDay * nanosecondsPerSecond + part) =
      t.nanoseconds := by
    simp only [secondsPerDay, nanosecondsPerSecond]
    omega
  have universal : Reader.zone ['Z'] = some (0, []) := rfl
  have bare : Reader.annotations [] = some () := rfl
  rw [ofText?, Reader.timestamp?, toList_text before fits whole,
    Reader.date_written _ early late january december first last]
  simp only [Option.bind_eq_bind, Option.bind_some, true_or, if_true, universal, bare,
    Reader.timeOfDay_written [] (by omega : ofDay / 3600 ≤ 23) (by omega : ofDay / 60 % 60 ≤ 59)
      (by omega : ofDay % 60 ≤ 59) fits, clock, CalendarDate.toDays_ofDays, instant]
  exact if_pos ⟨low, high⟩

theorem bounds_of_ofText? {text : String} {t : Timestamp} (read : ofText? text = some t) :
    earliest ≤ t.nanoseconds ∧ t.nanoseconds ≤ latest := by
  obtain ⟨⟨date, rest⟩, _, read⟩ := Option.bind_eq_some_iff.mp read
  cases rest with
  | nil => cases read
  | cons mark rest =>
    simp only [Option.bind_eq_bind] at read
    split at read
    · simp only [Option.bind_eq_some_iff, Option.ite_none_right_eq_some, Option.some.injEq] at read
      obtain ⟨_, _, _, _, _, _, _, _, bounds, rfl⟩ := read
      exact bounds
    · cases read

theorem restores : Restores decode toJson := by
  intro doc t read
  match doc, read with
  | .string text, read =>
    obtain ⟨low, high⟩ := bounds_of_ofText? read
    exact ofText?_text low high

end DagConsole.Timestamp
