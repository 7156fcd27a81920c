import FileTrans.Text.Numeral

/-!
# Times as text

A reading of the clock as a calendar time, and the texts that `std::put_time`
makes of it.  A year has four digits.

The days of the Gregorian calendar are counted year by year and month by month.
The days before a year are its multiple of 365 and the leap days before it.
-/

namespace FileTrans.Text

/-! ## Numbers of a fixed width -/

/-- A number after as many zeros as its width takes. -/
def padded (width number : Nat) : Bytes :=
  List.replicate (width - (decimal number).length) 0x30 ++ decimal number

@[simp]
theorem ofDigits_padded (width number : Nat) : ofDigits 10 (padded width number) = number := by
  rw [padded, ofDigits_zeros, ofDigits_decimal]

theorem length_padded {width number : Nat} (positive : 0 < width) (small : number < 10 ^ width) :
    (padded width number).length = width := by
  have short : (decimal number).length ≤ width := by
    by_cases zero : number = 0
    · subst zero
      exact positive
    · have power := pow_length_decimal_le zero
      have less : (decimal number).length - 1 < width :=
        (Nat.pow_lt_pow_iff_right (by decide)).mp (lt_of_le_of_lt power small)
      omega
  rw [padded, List.length_append, List.length_replicate]
  omega

theorem isDigit_of_mem_padded {width number : Nat} {byte : UInt8}
    (mem : byte ∈ padded width number) : isDigit 10 byte = true := by
  rcases List.mem_append.mp mem with zero | digit
  · rw [List.eq_of_mem_replicate zero]
    rfl
  · exact isDigit_of_mem_decimal digit

theorem padded_append_inj {width number other : Nat} {rest after : Bytes} (positive : 0 < width)
    (small : number < 10 ^ width) (otherSmall : other < 10 ^ width)
    (same : padded width number ++ rest = padded width other ++ after) :
    number = other ∧ rest = after := by
  have lengths : (padded width number).length = (padded width other).length := by
    rw [length_padded positive small, length_padded positive otherSmall]
  rcases List.append_inj same lengths with ⟨numbers, rests⟩
  exact ⟨Function.LeftInverse.injective (ofDigits_padded width) numbers, rests⟩

/-! ## Calendar times -/

/-- A calendar time, to the second. -/
structure UtcTime where
  year : Nat
  month : Nat
  day : Nat
  hour : Nat
  minute : Nat
  second : Nat
  year_lt : year < 10 ^ 4
  month_lt : month < 10 ^ 2
  day_lt : day < 10 ^ 2
  hour_lt : hour < 10 ^ 2
  minute_lt : minute < 10 ^ 2
  second_lt : second < 10 ^ 2
  deriving DecidableEq

namespace UtcTime

theorem zero_lt_hundred : 0 < 10 ^ 2 := by
  decide

theorem one_lt_hundred : 1 < 10 ^ 2 := by
  decide

theorem epoch_lt : 1970 < 10 ^ 4 := by
  decide

/-- The parts of a time, the greatest first. -/
def parts (time : UtcTime) : List Nat :=
  [time.year, time.month, time.day, time.hour, time.minute, time.second]

theorem parts_injective : Function.Injective parts := by
  rintro ⟨year, month, day, hour, minute, second, _, _, _, _, _, _⟩
    ⟨year', month', day', hour', minute', second', _, _, _, _, _, _⟩ same
  simp only [parts, List.cons.injEq] at same
  rcases same with ⟨rfl, rfl, rfl, rfl, rfl, rfl, -⟩
  rfl

/-- The clock shows one time not before the other. -/
instance : LE UtcTime where
  le first second := first.parts ≤ second.parts

theorem eq_of_le_of_le {first second third : UtcTime} (first_le : first ≤ second)
    (second_le : second ≤ third) (same : first = third) : second = first := by
  subst same
  exact parts_injective (le_antisymm second_le first_le)

/-- `get_date_stamp`. -/
def dateStamp (time : UtcTime) : Bytes :=
  padded 4 time.year ++ padded 2 time.month ++ padded 2 time.day

/-- `get_iso8601_time`. -/
def iso8601 (time : UtcTime) : Bytes :=
  time.dateStamp ++ ascii "T" ++ padded 2 time.hour ++ padded 2 time.minute ++
    padded 2 time.second ++ ascii "Z"

theorem length_dateStamp (time : UtcTime) : time.dateStamp.length = 8 := by
  rw [dateStamp, List.length_append, List.length_append,
    length_padded (by decide) time.year_lt, length_padded (by decide) time.month_lt,
    length_padded (by decide) time.day_lt]

theorem length_iso8601 (time : UtcTime) : time.iso8601.length = 16 := by
  simp only [iso8601, List.length_append, length_dateStamp, length_padded (by decide) time.hour_lt,
    length_padded (by decide) time.minute_lt, length_padded (by decide) time.second_lt]
  rfl

theorem take_iso8601 (time : UtcTime) : time.iso8601.take 8 = time.dateStamp := by
  simp only [iso8601, List.append_assoc]
  exact List.take_left' time.length_dateStamp

theorem iso8601_injective : Function.Injective iso8601 := by
  intro first second same
  simp only [iso8601, dateStamp, List.append_assoc] at same
  rcases padded_append_inj (by decide) first.year_lt second.year_lt same with ⟨year, same⟩
  rcases padded_append_inj (by decide) first.month_lt second.month_lt same with ⟨month, same⟩
  rcases padded_append_inj (by decide) first.day_lt second.day_lt same with ⟨day, same⟩
  replace same := List.append_cancel_left same
  rcases padded_append_inj (by decide) first.hour_lt second.hour_lt same with ⟨hour, same⟩
  rcases padded_append_inj (by decide) first.minute_lt second.minute_lt same with
    ⟨minute, same⟩
  rcases padded_append_inj (by decide) first.second_lt second.second_lt same with ⟨sec, -⟩
  apply parts_injective
  simp only [parts, year, month, day, hour, minute, sec]

end UtcTime

/-! ## The calendar -/

/-- A year that has a leap day. -/
def IsLeapYear (year : Nat) : Prop :=
  year % 4 = 0 ∧ (year % 100 ≠ 0 ∨ year % 400 = 0)

instance (year : Nat) : Decidable (IsLeapYear year) :=
  inferInstanceAs (Decidable (_ ∧ _))

def daysInMonth (year month : Nat) : Nat :=
  if month = 2 then if IsLeapYear year then 29 else 28
  else if month = 4 ∨ month = 6 ∨ month = 9 ∨ month = 11 then 30
  else 31

def daysToYear : Nat → Nat
  | 0 => 0
  | year + 1 => daysToYear year + if IsLeapYear year then 366 else 365

/-- The days from the beginning of a year to that of a month, which is one of twelve. -/
def daysToMonth (year : Nat) : Nat → Nat
  | 0 => 0
  | month + 1 => daysToMonth year month + if month = 0 then 0 else daysInMonth year month

theorem daysInYear_eq (year : Nat) :
    (if IsLeapYear year then 366 else 365) + (if year % 100 = 0 then 1 else 0) =
      365 + (if year % 4 = 0 then 1 else 0) + if year % 400 = 0 then 1 else 0 := by
  have hundreds : year % 100 = 0 → year % 4 = 0 := by omega
  have eras : year % 400 = 0 → year % 100 = 0 := by omega
  by_cases fourth : year % 4 = 0 <;> by_cases hundredth : year % 100 = 0 <;>
    by_cases era : year % 400 = 0 <;> simp_all [IsLeapYear]

theorem daysToYear_succ (year : Nat) : daysToYear (year + 1) + year / 100 =
    365 * year + year / 4 + year / 400 + 366 := by
  induction year with
  | zero => rfl
  | succ year ih =>
      have fourth : (year + 1) / 4 = year / 4 + if (year + 1) % 4 = 0 then 1 else 0 := by
        split_ifs <;> omega
      have hundredth : (year + 1) / 100 = year / 100 + if (year + 1) % 100 = 0 then 1 else 0 := by
        split_ifs <;> omega
      have era : (year + 1) / 400 = year / 400 + if (year + 1) % 400 = 0 then 1 else 0 := by
        split_ifs <;> omega
      have leap := daysInYear_eq (year + 1)
      rw [daysToYear, fourth, hundredth, era]
      linarith only [ih, leap]

theorem daysToYear_epoch : daysToYear 1970 = 719528 := by
  have days : daysToYear 1970 + 1969 / 100 = _ := daysToYear_succ 1969
  omega

/-- A date of the calendar and a time of its day. -/
structure CalendarTime extends UtcTime where
  month_pos : 0 < month
  month_le : month ≤ 12
  day_pos : 0 < day
  day_le : day ≤ daysInMonth year month
  hour_le : hour ≤ 23
  minute_le : minute ≤ 59
  second_le : second ≤ 59
  deriving DecidableEq

namespace CalendarTime

variable (time : CalendarTime)

/-- The days from the epoch, which is the beginning of the year 1970. -/
def days : Int :=
  (daysToYear time.year + daysToMonth time.year time.month + (time.day - 1) : Nat) -
    daysToYear 1970

/-- The seconds from the epoch. -/
def seconds : Int :=
  time.days * 86400 + (time.hour * 3600 + time.minute * 60 + time.second : Nat)

/-- The day of the week, from Sunday on.  The epoch is a Thursday. -/
def weekday : Nat :=
  ((time.days + 4) % 7).toNat

theorem day_le_thirty_one : time.day ≤ 31 := by
  have inside := time.day_le
  unfold daysInMonth at inside
  split_ifs at inside <;> omega

theorem weekday_lt : time.weekday < 7 := by
  have upper := Int.emod_lt_of_pos (time.days + 4) (show (0 : Int) < 7 by decide)
  unfold weekday
  omega

end CalendarTime

end FileTrans.Text
