import FileTrans.Cloud.AzureListing
import FileTrans.Cloud.ListServer

/-!
# Times in listings

Both providers write the time of a change for UTC: as a date with a time, or with
the names of the day and of the month.  What is read of either text is the time
that was written.
-/

namespace FileTrans.Cloud

open FileTrans.Text
open ListServer

/-! ## Days -/

theorem days_of_eras (year : Int) :
    year / 400 * 146097 + ((year - year / 400 * 400) * 365 + (year - year / 400 * 400) / 4 -
      (year - year / 400 * 400) / 100) = 365 * year + year / 4 - year / 100 + year / 400 := by
  omega

theorem daysToMonth_early (year : Nat) {month : Nat} (positive : 0 < month) (early : month ≤ 2) :
    daysToMonth year month + 306 = (153 * ((month + 9) % 12) + 2) / 5 := by
  interval_cases month <;> simp [daysToMonth, daysInMonth]

theorem daysToMonth_late (year : Nat) {month : Nat} (late : 2 < month) (twelve : month ≤ 12) :
    daysToMonth year month =
      (153 * ((month + 9) % 12) + 2) / 5 + if IsLeapYear year then 60 else 59 := by
  by_cases leap : IsLeapYear year <;>
    interval_cases month <;> simp [daysToMonth, daysInMonth, leap]

theorem daysFromCivil_shifted (year month day : Nat) (shifted : Int)
    (shift : shifted = if month ≤ 2 then (year : Int) - 1 else year) :
    daysFromCivil year month day = 365 * shifted + shifted / 4 - shifted / 100 + shifted / 400 +
      ((153 * ((month + 9) % 12) + 2) / 5 : Nat) + day - 719469 := by
  have eras := days_of_eras shifted
  simp only [daysFromCivil, ← shift]
  push_cast
  linarith only [eras]

theorem daysToYear_eq (year : Nat) : (daysToYear year : Int) =
    365 * (year - 1) + (year - 1) / 4 - (year - 1) / 100 + (year - 1) / 400 + 366 := by
  cases year with
  | zero => rfl
  | succ year =>
      have days := daysToYear_succ year
      have before : ((year + 1 : Nat) : Int) - 1 = year := by simp
      rw [before]
      omega

theorem daysFromCivil_eq (time : CalendarTime) :
    daysFromCivil time.year time.month time.day = time.days := by
  have first := time.day_pos
  rw [daysFromCivil_shifted _ _ _ _ rfl, CalendarTime.days, daysToYear_epoch]
  by_cases early : time.month ≤ 2
  · rw [if_pos early, ← daysToMonth_early time.year time.month_pos early]
    have years := daysToYear_eq time.year
    push_cast [Nat.cast_sub first]
    linarith only [years]
  · have months := daysToMonth_late time.year (Nat.lt_of_not_le early) time.month_le
    have years := daysToYear_eq (time.year + 1)
    rw [daysToYear] at years
    rw [if_neg early, months]
    push_cast [Nat.cast_sub first] at years ⊢
    rw [add_sub_cancel_right] at years
    by_cases leap : IsLeapYear time.year
    · rw [if_pos leap] at years ⊢
      linarith only [years]
    · rw [if_neg leap] at years ⊢
      linarith only [years]

/-! ## Fields of a time -/

theorem numberField_padded {width least most number : Nat} (positive : 0 < width)
    (small : number < 10 ^ width) (lower : least ≤ number) (upper : number ≤ most) (rest : Bytes) :
    numberField width least most (padded width number ++ rest) = some (number, rest) := by
  have length := length_padded positive small
  have digits : (padded width number).takeWhile (isDigit 10) = padded width number :=
    List.takeWhile_eq_self_iff.mpr fun _ => isDigit_of_mem_padded
  have nonempty : padded width number ≠ [] := List.ne_nil_of_length_pos (by omega)
  have inside : ¬ (padded width number = [] ∨ number < least ∨ most < number) := by
    simp only [nonempty, false_or, not_or, not_lt]
    exact ⟨lower, upper⟩
  rw [numberField, List.take_left' length]
  simp only [digits, ofDigits_padded, if_neg inside, List.drop_left]

theorem characterField_cons (character : UInt8) (rest : Bytes) :
    characterField character (character :: rest) = some rest :=
  if_pos rfl

theorem nameField_append {names : List Bytes} {word : Bytes} {number : Nat} {stop : UInt8}
    (letters : ∀ byte ∈ word, isLetter byte = true) (other : isLetter stop = false)
    (found : names.findIdx? (fun name => word = name ∨ word = name.take 3) = some number)
    (rest : Bytes) : nameField names (word ++ stop :: rest) = some (number, stop :: rest) := by
  have stops : (word ++ stop :: rest).takeWhile isLetter = word := by
    rw [List.takeWhile_append_of_pos letters, List.takeWhile_cons_of_neg (by simp [other]),
      List.append_nil]
  rw [nameField]
  simp only [stops, found, Option.map_some, List.drop_left]

theorem dropWhile_space {text : Bytes} (solid : ∀ byte ∈ text, Text.isSpace byte = false)
    (nonempty : text ≠ []) (rest : Bytes) :
    (0x20 :: (text ++ rest)).dropWhile Text.isSpace = text ++ rest := by
  rcases List.exists_cons_of_ne_nil nonempty with ⟨byte, later, rfl⟩
  have first := solid byte List.mem_cons_self
  rw [List.dropWhile_cons_of_pos rfl, List.cons_append,
    List.dropWhile_cons_of_neg (by simp [first])]

theorem dropWhile_space_padded {width number : Nat} (rest : Bytes) :
    (0x20 :: (padded width number ++ rest)).dropWhile Text.isSpace =
      padded width number ++ rest := by
  apply dropWhile_space
  · intro byte mem
    rcases digitValue_isSome (isDigit_of_mem_padded mem) with ⟨value, reads, -⟩
    by_contra space
    rw [Bool.not_eq_false] at space
    rw [digitValue_eq_none_of_sign (.inl space)] at reads
    contradiction
  · simp [padded, decimal_ne_nil]

/-! ## Texts of a time -/

/-- The hours, minutes and seconds of a time. -/
def clockText (time : UtcTime) (rest : Bytes) : Bytes :=
  padded 2 time.hour ++ 0x3a :: (padded 2 time.minute ++ 0x3a :: (padded 2 time.second ++ rest))

/-- A time with the names of its day and its month. -/
def weekText (time : CalendarTime) : Bytes :=
  (weekdayNames.getD time.weekday []).take 3 ++ 0x2c :: 0x20 :: (padded 2 time.day ++
    0x20 :: ((monthNames.getD (time.month - 1) []).take 3 ++ 0x20 :: (padded 4 time.year ++
      0x20 :: clockText time.toUtcTime (ascii " GMT"))))

/-- A date and a time, in the order of their units. -/
def dateText (time : UtcTime) (rest : Bytes) : Bytes :=
  padded 4 time.year ++ 0x2d :: (padded 2 time.month ++ 0x2d :: (padded 2 time.day ++
    0x54 :: clockText time rest))

theorem timeText_eq (time : UtcTime) : timeText time = dateText time (ascii ".000Z") := by
  have dash : ascii "-" = [0x2d] := rfl
  have letter : ascii "T" = [0x54] := rfl
  have colon : ascii ":" = [0x3a] := rfl
  simp only [timeText, dateText, clockText, dash, letter, colon, List.append_assoc,
    List.cons_append, List.nil_append]

section Reading

variable (time : CalendarTime) (rest : Bytes)

theorem numberField_year :
    numberField 4 0 9999 (padded 4 time.year ++ rest) = some (time.year, rest) := by
  have upper := time.year_lt
  exact numberField_padded (by decide) upper (Nat.zero_le _) (by omega) rest

theorem numberField_month :
    numberField 2 1 12 (padded 2 time.month ++ rest) = some (time.month, rest) :=
  numberField_padded (by decide) time.month_lt time.month_pos time.month_le rest

theorem numberField_day :
    numberField 2 1 31 (padded 2 time.day ++ rest) = some (time.day, rest) :=
  numberField_padded (by decide) time.day_lt time.day_pos time.day_le_thirty_one rest

theorem numberField_hour :
    numberField 2 0 23 (padded 2 time.hour ++ rest) = some (time.hour, rest) :=
  numberField_padded (by decide) time.hour_lt (Nat.zero_le _) time.hour_le rest

theorem numberField_minute :
    numberField 2 0 59 (padded 2 time.minute ++ rest) = some (time.minute, rest) :=
  numberField_padded (by decide) time.minute_lt (Nat.zero_le _) time.minute_le rest

theorem numberField_second :
    numberField 2 0 60 (padded 2 time.second ++ rest) = some (time.second, rest) :=
  numberField_padded (by decide) time.second_lt (Nat.zero_le _)
    (Nat.le_succ_of_le time.second_le) rest

end Reading

theorem getTime_dateText (time : CalendarTime) (rest : Bytes) :
    getTime (dateText time.toUtcTime rest) = some time.seconds := by
  rw [dateText, getTime]
  simp only [clockText, numberField_year, numberField_month, numberField_day, numberField_hour,
    numberField_minute, numberField_second, characterField_cons, Option.bind_eq_bind,
    Option.bind_some, daysFromCivil_eq, CalendarTime.seconds]

theorem getTime_timeText (time : CalendarTime) :
    getTime (timeText time.toUtcTime) = some time.seconds := by
  rw [timeText_eq, getTime_dateText]

theorem weekday_name {number : Nat} (small : number < 7) :
    (∀ byte ∈ (weekdayNames.getD number []).take 3, isLetter byte = true) ∧
      weekdayNames.findIdx? (fun name => (weekdayNames.getD number []).take 3 = name ∨
        (weekdayNames.getD number []).take 3 = name.take 3) = some number := by
  interval_cases number <;> decide

theorem month_name {number : Nat} (small : number < 12) :
    (∀ byte ∈ (monthNames.getD number []).take 3, isLetter byte = true) ∧
      (monthNames.getD number []).take 3 ≠ [] ∧
      monthNames.findIdx? (fun name => (monthNames.getD number []).take 3 = name ∨
        (monthNames.getD number []).take 3 = name.take 3) = some number := by
  interval_cases number <;> decide

theorem isSpace_of_isLetter {byte : UInt8} (letter : isLetter byte = true) :
    Text.isSpace byte = false := by
  simp only [isLetter, Text.isSpace, Bool.or_eq_true, Bool.and_eq_true, decide_eq_true_eq,
    UInt8.le_iff_toNat_le, Bool.or_eq_false_iff, beq_eq_false_iff_ne, Bool.and_eq_false_iff,
    decide_eq_false_iff_not] at letter ⊢
  constructor
  · rintro rfl
    exact absurd letter (by decide)
  · have upper : (0x0d : UInt8).toNat = 0x0d := rfl
    have first : (0x41 : UInt8).toNat = 0x41 := rfl
    have second : (0x61 : UInt8).toNat = 0x61 := rfl
    omega

theorem getTimeOfWeek_weekText (time : CalendarTime) :
    getTimeOfWeek (weekText time) = some time.seconds := by
  have positive := time.month_pos
  have twelve := time.month_le
  have day := weekday_name time.weekday_lt
  have month := month_name (show time.month - 1 < 12 by omega)
  have next : time.month - 1 + 1 = time.month := Nat.sub_add_cancel positive
  have dayField (rest : Bytes) := nameField_append day.1 (show isLetter 0x2c = false from rfl)
    day.2 rest
  have monthField (rest : Bytes) := nameField_append month.1 (show isLetter 0x20 = false from rfl)
    month.2.2 rest
  have monthSpace := dropWhile_space (fun byte mem => isSpace_of_isLetter (month.1 byte mem))
    month.2.1
  rw [weekText, getTimeOfWeek]
  simp only [dayField, monthField, monthSpace, clockText, dropWhile_space_padded, numberField_year,
    numberField_day, numberField_hour, numberField_minute, numberField_second, characterField_cons,
    Option.bind_eq_bind, Option.bind_some, next, daysFromCivil_eq, CalendarTime.seconds]

theorem notMem_weekText (time : CalendarTime) : 0x3c ∉ weekText time := by
  have letter {word : Bytes} (letters : ∀ byte ∈ word, isLetter byte = true) : 0x3c ∉ word :=
    fun mem => absurd (letters 0x3c mem) (by decide)
  have twelve := time.month_le
  have positive := time.month_pos
  have day := letter (weekday_name time.weekday_lt).1
  have month := letter (month_name (show time.month - 1 < 12 by omega)).1
  have zone : 0x3c ∉ ascii " GMT" := by decide
  rw [List.getD_eq_getElem?_getD] at day month
  simp [weekText, clockText, notMem_padded, day, month, zone]

end FileTrans.Cloud
