import DagConsole.Proofs.Text.Blank
import DagConsole.Proofs.Text.Numeral
import DagConsole.Schedule.Basic

/-! The cron expressions of periods. Those that are accepted are told by a grammar, and a period is read back from the
expression that is written for it, less what its unit does not use. -/
namespace DagConsole

open Text (IsUnsigned IsSigned)

theorem Weekday.ofNumber?_eq_some_iff {n : Int} {day : Weekday} : ofNumber? n = some day ↔ n = day.number := by
  constructor
  · intro read
    unfold ofNumber? at read
    split at read <;> cases read <;> rfl
  · rintro rfl
    exact ofNumber?_number day

namespace Period

/-- The fields of the cron expressions that encode a period: minute, hour, day of the month, month and weekday. -/
inductive Encodes : List (List Char) → Period → Prop where
  | hourly {m : List Char} {minute : Nat} (minutes : IsUnsigned m minute) (pastHour : minute ≤ 59) :
      Encodes [m, ['*'], ['*'], ['*'], ['*']] { unit := .hourly, minute, hour := 0, weekday := .sunday, day := 1 }
  | daily {m h : List Char} {minute hour : Nat} (minutes : IsUnsigned m minute) (pastHour : minute ≤ 59)
      (hours : IsUnsigned h hour) (ofDay : hour ≤ 23) :
      Encodes [m, h, ['*'], ['*'], ['*']] { unit := .daily, minute, hour, weekday := .sunday, day := 1 }
  | weekly {m h w : List Char} {minute hour : Nat} {weekday : Weekday} (minutes : IsUnsigned m minute)
      (pastHour : minute ≤ 59) (hours : IsUnsigned h hour) (ofDay : hour ≤ 23)
      (weekdays : IsSigned w weekday.number) :
      Encodes [m, h, ['*'], ['*'], w] { unit := .weekly, minute, hour, weekday, day := 1 }
  | monthly {m h d : List Char} {minute hour day : Nat} (minutes : IsUnsigned m minute) (pastHour : minute ≤ 59)
      (hours : IsUnsigned h hour) (ofDay : hour ≤ 23) (days : IsUnsigned d day) (first : 1 ≤ day) (last : day ≤ 31) :
      Encodes [m, h, d, ['*'], ['*']] { unit := .monthly, minute, hour, weekday := .sunday, day }

variable {p : Period} {fields : List (List Char)} {field : List Char} {n : Nat}

/-! ### The check -/

theorem validate_eq_ok_iff : p.validate = .ok () ↔ p.minute ≤ 59 ∧ (p.unit ≠ .hourly → p.hour ≤ 23) ∧
    (p.unit = .monthly → 1 ≤ p.day ∧ p.day ≤ 31) := by
  unfold validate
  split_ifs with late dark absent
  · simp only [false_iff]
    omega
  · simp only [false_iff]
    rintro ⟨_, hours, _⟩
    exact absurd (hours dark.1) (by omega)
  · simp only [false_iff]
    rintro ⟨_, _, days⟩
    have := days absent.1
    omega
  · simp only [true_iff]
    refine ⟨by omega, fun longer => ?_, fun monthly => ?_⟩
    · have := not_and.mp dark longer
      omega
    · have := not_and.mp absent monthly
      omega

theorem kind_of_validate_eq_error {e : Error} (failed : p.validate = .error e) : e.kind = .invalidInput := by
  unfold validate at failed
  split_ifs at failed <;> cases failed <;> rfl

/-! ### Reading -/

theorem cronNumber?_eq_some_iff : cronNumber? field = some n ↔ IsUnsigned field n ∧ n ≤ 255 :=
  Text.unsigned?_eq_some_iff

theorem cronWeekday?_eq_some_iff {day : Weekday} : cronWeekday? field = some day ↔ IsSigned field day.number := by
  simp only [cronWeekday?, Option.bind_eq_some_iff, Text.signed?_eq_some_iff, Weekday.ofNumber?_eq_some_iff]
  constructor
  · rintro ⟨_, ⟨literal, _⟩, rfl⟩
    exact literal
  · intro literal
    have small : day.number ≤ 6 := by cases day <;> decide
    exact ⟨_, ⟨literal, by omega, by omega⟩, rfl⟩

theorem ne_star_of_unsigned (literal : IsUnsigned field n) : field ≠ ['*'] := by
  rintro rfl
  cases literal with
  | plain numeral => exact absurd rfl (numeral.ne_cons rfl [])

theorem ne_star_of_signed {value : Int} (literal : IsSigned field value) : field ≠ ['*'] := by
  rintro rfl
  cases literal with
  | unsigned literal => exact absurd rfl (ne_star_of_unsigned literal)

theorem encodes_of_read (read : ofCronFields? fields = some p) (valid : p.validate = .ok ()) : Encodes fields p := by
  obtain ⟨pastHour, ofDay, ofMonth⟩ := validate_eq_ok_iff.mp valid
  unfold ofCronFields? at read
  split at read
  · obtain ⟨minute, spelled, chosen⟩ := Option.bind_eq_some_iff.mp read
    clear read
    have minutes := (cronNumber?_eq_some_iff.mp spelled).1
    split_ifs at chosen with everyHour everyDay everyWeek everyMonth
    · obtain ⟨rfl, rfl, rfl⟩ := everyHour
      cases chosen
      exact .hourly minutes pastHour
    · obtain ⟨rfl, rfl⟩ := everyDay
      obtain ⟨hour, hours, same⟩ := Option.bind_eq_some_iff.mp chosen
      cases same
      exact .daily minutes pastHour (cronNumber?_eq_some_iff.mp hours).1 (ofDay nofun)
    · obtain rfl := everyWeek
      obtain ⟨weekday, weekdays, timed⟩ := Option.bind_eq_some_iff.mp chosen
      obtain ⟨hour, hours, same⟩ := Option.bind_eq_some_iff.mp timed
      cases same
      exact .weekly minutes pastHour (cronNumber?_eq_some_iff.mp hours).1 (ofDay nofun)
        (cronWeekday?_eq_some_iff.mp weekdays)
    · obtain rfl := everyMonth
      obtain ⟨hour, hours, dated⟩ := Option.bind_eq_some_iff.mp chosen
      obtain ⟨day, days, same⟩ := Option.bind_eq_some_iff.mp dated
      cases same
      obtain ⟨first, last⟩ := ofMonth rfl
      exact .monthly minutes pastHour (cronNumber?_eq_some_iff.mp hours).1 (ofDay nofun)
        (cronNumber?_eq_some_iff.mp days).1 first last
  · cases read

theorem validate_of_encodes (encodes : Encodes fields p) : p.validate = .ok () := by
  rw [validate_eq_ok_iff]
  cases encodes with
  | hourly minutes pastHour => exact ⟨pastHour, nofun, nofun⟩
  | daily minutes pastHour hours ofDay => exact ⟨pastHour, fun _ => ofDay, nofun⟩
  | weekly minutes pastHour hours ofDay weekdays => exact ⟨pastHour, fun _ => ofDay, nofun⟩
  | monthly minutes pastHour hours ofDay days first last => exact ⟨pastHour, fun _ => ofDay, fun _ => ⟨first, last⟩⟩

theorem read_of_encodes (encodes : Encodes fields p) : ofCronFields? fields = some p := by
  have number {field : List Char} {n : Nat} (literal : IsUnsigned field n) (small : n ≤ 59) :
      cronNumber? field = some n := cronNumber?_eq_some_iff.mpr ⟨literal, by omega⟩
  cases encodes with
  | hourly minutes pastHour => simp [ofCronFields?, number minutes pastHour]
  | daily minutes pastHour hours ofDay =>
    simp [ofCronFields?, number minutes pastHour, number hours (by omega), ne_star_of_unsigned hours]
  | weekly minutes pastHour hours ofDay weekdays =>
    simp [ofCronFields?, number minutes pastHour, number hours (by omega), cronWeekday?_eq_some_iff.mpr weekdays,
      ne_star_of_signed weekdays]
  | monthly minutes pastHour hours ofDay days first last =>
    simp [ofCronFields?, number minutes pastHour, number hours (by omega), number days (by omega),
      ne_star_of_unsigned days]

/-- The fields of the grammar are the ones that are read, each as the period that they encode, and are in range. -/
theorem encodes_iff : Encodes fields p ↔ ofCronFields? fields = some p ∧ p.validate = .ok () :=
  ⟨fun encodes => ⟨read_of_encodes encodes, validate_of_encodes encodes⟩,
    fun ⟨read, valid⟩ => encodes_of_read read valid⟩

theorem ofCron_eq_ok_iff {expression : String} :
    ofCron expression = .ok p ↔ Encodes (Text.words expression.toList) p := by
  rw [encodes_iff, ofCron]
  cases ofCronFields? (Text.words expression.toList) with
  | none => simp
  | some read =>
    simp only [Option.some.injEq]
    cases checked : read.validate with
    | error e =>
      constructor
      · intro impossible
        cases impossible
      · rintro ⟨rfl, valid⟩
        rw [checked] at valid
        cases valid
    | ok _ =>
      constructor
      · intro same
        cases same
        exact ⟨rfl, checked⟩
      · rintro ⟨rfl, _⟩
        rfl

/-- The blanks around an expression make no difference to what it encodes. -/
theorem ofCron_trim {expression : String} : ofCron (Text.trim expression) = .ok p ↔ ofCron expression = .ok p := by
  rw [ofCron_eq_ok_iff, ofCron_eq_ok_iff, Text.trim, String.toList_ofList, Text.words_trimBlanks]

theorem kind_of_ofCron_eq_error {expression : String} {e : Error} (refused : ofCron expression = .error e) :
    e.kind = .invalidInput := by
  unfold ofCron at refused
  split at refused
  · cases refused
    rfl
  · rename_i read _
    cases checked : read.validate with
    | error other =>
      rw [checked] at refused
      cases refused
      exact kind_of_validate_eq_error checked
    | ok _ =>
      rw [checked] at refused
      cases refused

/-! ### Writing -/

theorem toList_star : "*".toList = ['*'] := rfl

/-- Every field that is written is a star or a number. -/
theorem mem_cronFields {text : String} (member : text ∈ p.cronFields) : text = "*" ∨ ∃ n : Nat, text = toString n := by
  unfold cronFields at member
  split at member <;> simp only [List.mem_cons, List.not_mem_nil, or_false] at member <;>
    rcases member with rfl | rfl | rfl | rfl | rfl <;> simp

theorem solid_of_mem_cronFields {text : String} (member : text ∈ p.cronFields) :
    text.toList ≠ [] ∧ ∀ c ∈ text.toList, Text.isBlank c = false := by
  rcases mem_cronFields member with rfl | ⟨n, rfl⟩
  · rw [toList_star]
    exact ⟨List.cons_ne_nil _ _, List.forall_mem_singleton.mpr rfl⟩
  · rw [Nat.toString_eq_ofList_toDigits, String.toList_ofList]
    refine ⟨Nat.toDigits_ne_nil, fun c digit => Text.isBlank_of_isDigit ?_⟩
    exact Nat.isDigit_of_mem_toDigits (by decide) (by decide) digit

theorem words_cron (p : Period) : Text.words p.cron.toList = p.cronFields.map String.toList := by
  rw [cron, String.toList_intercalate]
  apply Text.words_intercalate
  · intro part member
    obtain ⟨text, written, rfl⟩ := List.mem_map.mp member
    exact (solid_of_mem_cronFields written).1
  · intro part member
    obtain ⟨text, written, rfl⟩ := List.mem_map.mp member
    exact (solid_of_mem_cronFields written).2

/-- What is written for a period in range encodes the period, less what its unit does not use. -/
theorem encodes_cronFields (valid : p.validate = .ok ()) : Encodes (p.cronFields.map String.toList) p.normalize := by
  obtain ⟨pastHour, ofDay, ofMonth⟩ := validate_eq_ok_iff.mp valid
  have minutes := Text.isUnsigned_toString p.minute
  have hours := Text.isUnsigned_toString p.hour
  unfold cronFields normalize
  cases unit : p.unit with
  | hourly => exact .hourly minutes pastHour
  | daily => exact .daily minutes pastHour hours (ofDay (by simp [unit]))
  | weekly =>
    exact .weekly minutes pastHour hours (ofDay (by simp [unit])) (.unsigned (Text.isUnsigned_toString p.weekday.number))
  | monthly =>
    obtain ⟨first, last⟩ := ofMonth unit
    exact .monthly minutes pastHour hours (ofDay (by simp [unit])) (Text.isUnsigned_toString p.day) first last

theorem ofCron_cron (valid : p.validate = .ok ()) : ofCron p.cron = .ok p.normalize := by
  rw [ofCron_eq_ok_iff, words_cron]
  exact encodes_cronFields valid

theorem eq_of_cronNumber? {m : Nat} (read : cronNumber? (toString n).toList = some m) : m = n :=
  (cronNumber?_eq_some_iff.mp read).1.unique (Text.isUnsigned_toString n)

/-- What is read of the fields that are written is nothing but the period, less what its unit does not use. -/
theorem eq_normalize_of_read {q : Period} (read : ofCronFields? (p.cronFields.map String.toList) = some q) :
    q = p.normalize := by
  have number (n : Nat) : (toString n).toList ≠ ['*'] := ne_star_of_unsigned (Text.isUnsigned_toString n)
  have weekday : cronWeekday? (toString p.weekday.number).toList = some p.weekday :=
    cronWeekday?_eq_some_iff.mpr (.unsigned (Text.isUnsigned_toString p.weekday.number))
  unfold cronFields at read
  unfold normalize
  cases unit : p.unit with
  | hourly =>
    simp only [unit, List.map_cons, List.map_nil, toList_star, ofCronFields?, and_self, if_true, Option.bind_eq_bind,
      Option.bind_eq_some_iff, Option.pure_def, Option.some.injEq] at read
    obtain ⟨minute, minutes, rfl⟩ := read
    rw [eq_of_cronNumber? minutes]
  | daily =>
    simp only [unit, List.map_cons, List.map_nil, toList_star, ofCronFields?, number, and_self, false_and, if_true,
      if_false, Option.bind_eq_bind, Option.bind_eq_some_iff, Option.pure_def, Option.some.injEq] at read
    obtain ⟨minute, minutes, hour, hours, rfl⟩ := read
    rw [eq_of_cronNumber? minutes, eq_of_cronNumber? hours]
  | weekly =>
    simp only [unit, List.map_cons, List.map_nil, toList_star, ofCronFields?, number, weekday, and_self, and_false,
      if_true, if_false, Option.bind_eq_bind, Option.bind_some, Option.bind_eq_some_iff, Option.pure_def,
      Option.some.injEq] at read
    obtain ⟨minute, minutes, hour, hours, rfl⟩ := read
    rw [eq_of_cronNumber? minutes, eq_of_cronNumber? hours]
  | monthly =>
    simp only [unit, List.map_cons, List.map_nil, toList_star, ofCronFields?, number, and_self, false_and, if_true,
      if_false, Option.bind_eq_bind, Option.bind_eq_some_iff, Option.pure_def, Option.some.injEq] at read
    obtain ⟨minute, minutes, hour, hours, day, days, rfl⟩ := read
    rw [eq_of_cronNumber? minutes, eq_of_cronNumber? hours, eq_of_cronNumber? days]

theorem validate_normalize (p : Period) : p.normalize.validate = p.validate := by
  unfold normalize
  cases unit : p.unit <;> simp [validate, unit]

/-- Written and read again, a period is one exactly if it is in range. -/
theorem ofCron_cron_eq_ok_iff {q : Period} : ofCron p.cron = .ok q ↔ p.validate = .ok () ∧ q = p.normalize := by
  constructor
  · intro read
    have encodes := ofCron_eq_ok_iff.mp read
    rw [words_cron] at encodes
    obtain ⟨fields, valid⟩ := encodes_iff.mp encodes
    obtain rfl := eq_normalize_of_read fields
    exact ⟨validate_normalize p ▸ valid, rfl⟩
  · rintro ⟨valid, rfl⟩
    exact ofCron_cron valid

/-- A period that was read has no field that its unit does not use. -/
theorem normalize_of_encodes (encodes : Encodes fields p) : p.normalize = p := by
  cases encodes <;> rfl

/-- What is written for a period that was read encodes that period and nothing else. -/
theorem ofCron_cron_of_read {expression : String} (read : ofCron expression = .ok p) {q : Period} :
    ofCron p.cron = .ok q ↔ p = q := by
  have encodes := ofCron_eq_ok_iff.mp read
  rw [ofCron_cron (validate_of_encodes encodes), normalize_of_encodes encodes, Except.ok.injEq]

/-- What is accepted is told by the grammar, applied to the pieces of the expression between its blanks, and everything
else is refused. A period that was read is in range and is read again from what is written for it; so is every other
period in range, less what its unit does not use. -/
theorem ofCron_decides_grammar :
    (∀ expression p, ofCron expression = .ok p ↔
      Encodes ((expression.toList.splitOnP Text.isBlank).filter fun piece => !piece.isEmpty) p) ∧
    (∀ expression, (∃ p, ofCron expression = .ok p) ∨ ∃ e, ofCron expression = .error e ∧ e.kind = .invalidInput) ∧
    (∀ expression p, ofCron expression = .ok p → p.validate = .ok () ∧ ofCron p.cron = .ok p) ∧
    ∀ p : Period, p.validate = .ok () → ofCron p.cron = .ok p.normalize := by
  refine ⟨fun expression p => ?_, fun expression => ?_, fun expression p read => ?_, fun p => ofCron_cron⟩
  · rw [ofCron_eq_ok_iff, Text.words_eq_filter_splitOnP]
  · cases outcome : ofCron expression with
    | error e => exact .inr ⟨e, rfl, kind_of_ofCron_eq_error outcome⟩
    | ok p => exact .inl ⟨p, rfl⟩
  · have encodes := ofCron_eq_ok_iff.mp read
    have valid := validate_of_encodes encodes
    have again := ofCron_cron valid
    rw [normalize_of_encodes encodes] at again
    exact ⟨valid, again⟩

/-- A weekday is lost on a monthly schedule, and numbers in an odd spelling are read all the same. -/
theorem ofCron_lastOfMonth :
    let p : Period := { unit := .monthly, minute := 5, hour := 23, weekday := .friday, day := 31 }
    p.validate = .ok () ∧ p.cron = "5 23 31 * *" ∧ ofCron p.cron = .ok { p with weekday := .sunday } ∧
      ofCron "+05\u00a0\t023 31 * *" = ofCron p.cron := by
  intro p
  obtain ⟨accepts, _, _, writes⟩ := ofCron_decides_grammar
  have read := writes p rfl
  have pieces : (("+05\u00a0\t023 31 * *".toList.splitOnP Text.isBlank).filter fun piece => !piece.isEmpty) =
      [['+', '0', '5'], ['0', '2', '3'], ['3', '1'], ['*'], ['*']] := by decide
  refine ⟨rfl, by decide, read, ?_⟩
  rw [read, accepts, pieces]
  have minutes : IsUnsigned ['+', '0', '5'] 5 := .plus ⟨1, by decide⟩
  have hours : IsUnsigned ['0', '2', '3'] 23 := .plain ⟨1, by decide⟩
  have days : IsUnsigned ['3', '1'] 31 := .plain ⟨0, by decide⟩
  exact .monthly minutes (by decide) hours (by decide) days (by decide) (by decide)

end Period

namespace Schedule

variable {s : Schedule} {p q : Period}

theorem period?_eq_some_iff : s.period? = some p ↔ s.trigger = .periodic ∧ Period.ofCron s.cron = .ok p := by
  unfold period?
  split_ifs with periodic
  · cases Period.ofCron s.cron <;> simp [Except.toOption, periodic]
  · simp [periodic]

/-- A schedule encodes no period that is out of range. -/
theorem validate_of_period? (encoded : s.period? = some p) : p.validate = .ok () :=
  Period.validate_of_encodes (Period.ofCron_eq_ok_iff.mp (period?_eq_some_iff.mp encoded).2)

/-- The schedule of a period encodes it, less what its unit does not use, if it is in range, and else none. -/
theorem period?_ofPeriod_eq_some_iff : (ofPeriod p).period? = some q ↔ p.validate = .ok () ∧ q = p.normalize := by
  rw [period?_eq_some_iff, ofPeriod, Period.ofCron_cron_eq_ok_iff, eq_self, true_and]

end Schedule

end DagConsole
