import Mathlib.Data.List.Basic
import Mathlib.Tactic.Common
import Mathlib.Tactic.Ring

namespace AgentRoom.Library

structure Date where
  year : Int
  month : Int
  day : Int
deriving DecidableEq

-- The day 1970-01-01, counted from the first of March of the year zero, as are
-- the years and the months below: the leap day then ends a year.
def epochDay : Int := 719468

def yearStart (year : Int) : Int := 365 * year + year / 4 - year / 100 + year / 400

def monthStart (month : Int) : Int := (153 * month + 2) / 5

def dayNumber (date : Date) : Int :=
  let year := if date.month ≤ 2 then date.year - 1 else date.year
  let month := if date.month ≤ 2 then date.month + 9 else date.month - 3
  yearStart year + monthStart month + (date.day - 1) - epochDay

def dateOf (days : Int) : Date :=
  let era := (days + epochDay) / 146097
  let dayOfEra := (days + epochDay) % 146097
  let century := min (dayOfEra / 36524) 3
  let dayOfCentury := dayOfEra - 36524 * century
  let cycle := min (dayOfCentury / 1461) 24
  let dayOfCycle := dayOfCentury - 1461 * cycle
  let yearOfCycle := min (dayOfCycle / 365) 3
  let dayOfYear := dayOfCycle - 365 * yearOfCycle
  let month := (5 * dayOfYear + 2) / 153
  let year := 400 * era + 100 * century + 4 * cycle + yearOfCycle
  { year := if 10 ≤ month then year + 1 else year
    month := if 10 ≤ month then month - 9 else month + 3
    day := dayOfYear - monthStart month + 1 }

theorem year_start_split (era : Int) (centuryFits : 0 ≤ century ∧ century ≤ 3)
    (cycleFits : 0 ≤ cycle ∧ cycle ≤ 24) (yearFits : 0 ≤ year ∧ year ≤ 3) :
    yearStart (400 * era + 100 * century + 4 * cycle + year) =
      146097 * era + 36524 * century + 1461 * cycle + 365 * year := by
  have fours : (400 * era + 100 * century + 4 * cycle + year) / 4 = 100 * era + 25 * century + cycle := by omega
  have hundreds : (400 * era + 100 * century + 4 * cycle + year) / 100 = 4 * era + century := by omega
  have eras : (400 * era + 100 * century + 4 * cycle + year) / 400 = era := by omega
  simp only [yearStart, fours, hundreds, eras]
  omega

structure Split (days era century cycle year dayOfYear month : Int) : Prop where
  centuryFits : 0 ≤ century ∧ century ≤ 3
  cycleFits : 0 ≤ cycle ∧ cycle ≤ 24
  yearFits : 0 ≤ year ∧ year ≤ 3
  dayFits : 0 ≤ dayOfYear ∧ dayOfYear < 366
  monthFits : 0 ≤ month ∧ month ≤ 11 ∧ monthStart month ≤ dayOfYear ∧ dayOfYear < monthStart month + 31
  whole : 146097 * era + 36524 * century + 1461 * cycle + 365 * year + dayOfYear = days + epochDay
  date : dateOf days =
    { year := if 10 ≤ month then 400 * era + 100 * century + 4 * cycle + year + 1
        else 400 * era + 100 * century + 4 * cycle + year
      month := if 10 ≤ month then month - 9 else month + 3
      day := dayOfYear - monthStart month + 1 }

theorem split_days (days : Int) :
    ∃ era century cycle year dayOfYear month, Split days era century cycle year dayOfYear month := by
  obtain ⟨count, count_eq⟩ : ∃ count, count = days + epochDay := ⟨_, rfl⟩
  obtain ⟨era, era_eq⟩ : ∃ era, era = count / 146097 := ⟨_, rfl⟩
  obtain ⟨dayOfEra, dayOfEra_eq⟩ : ∃ dayOfEra, dayOfEra = count % 146097 := ⟨_, rfl⟩
  obtain ⟨century, century_eq⟩ : ∃ century, century = min (dayOfEra / 36524) 3 := ⟨_, rfl⟩
  obtain ⟨dayOfCentury, dayOfCentury_eq⟩ : ∃ dayOfCentury, dayOfCentury = dayOfEra - 36524 * century := ⟨_, rfl⟩
  obtain ⟨cycle, cycle_eq⟩ : ∃ cycle, cycle = min (dayOfCentury / 1461) 24 := ⟨_, rfl⟩
  obtain ⟨dayOfCycle, dayOfCycle_eq⟩ : ∃ dayOfCycle, dayOfCycle = dayOfCentury - 1461 * cycle := ⟨_, rfl⟩
  obtain ⟨year, year_eq⟩ : ∃ year, year = min (dayOfCycle / 365) 3 := ⟨_, rfl⟩
  obtain ⟨dayOfYear, dayOfYear_eq⟩ : ∃ dayOfYear, dayOfYear = dayOfCycle - 365 * year := ⟨_, rfl⟩
  obtain ⟨month, month_eq⟩ : ∃ month, month = (5 * dayOfYear + 2) / 153 := ⟨_, rfl⟩
  have eraFits : 0 ≤ dayOfEra ∧ dayOfEra < 146097 := by omega
  have centuryFits : 0 ≤ century ∧ century ≤ 3 ∧ 0 ≤ dayOfCentury ∧ dayOfCentury < 36525 := by omega
  have cycleFits : 0 ≤ cycle ∧ cycle ≤ 24 ∧ 0 ≤ dayOfCycle ∧ dayOfCycle < 1461 := by omega
  have yearFits : 0 ≤ year ∧ year ≤ 3 ∧ 0 ≤ dayOfYear ∧ dayOfYear < 366 := by omega
  refine ⟨era, century, cycle, year, dayOfYear, month, ⟨by omega, by omega, by omega, by omega, ?_, by omega, ?_⟩⟩
  · simp only [monthStart]
    omega
  · subst month_eq dayOfYear_eq year_eq dayOfCycle_eq cycle_eq dayOfCentury_eq century_eq dayOfEra_eq era_eq count_eq
    rfl

theorem day_number_date_of (days : Int) : dayNumber (dateOf days) = days := by
  obtain ⟨era, century, cycle, year, dayOfYear, month, split⟩ := split_days days
  have starts := year_start_split era split.centuryFits split.cycleFits split.yearFits
  have whole := split.whole
  have fits := split.monthFits
  rw [split.date]
  by_cases late : 10 ≤ month
  · have small : month - 9 ≤ 2 := by omega
    have back : month - 9 + 9 = month := by omega
    have before : 400 * era + 100 * century + 4 * cycle + year + 1 - 1 = 400 * era + 100 * century + 4 * cycle + year := by omega
    simp only [dayNumber, if_pos late, if_pos small, back, before, starts]
    omega
  · have large : ¬ month + 3 ≤ 2 := by omega
    have back : month + 3 - 3 = month := by omega
    simp only [dayNumber, if_neg late, if_neg large, back, starts]
    omega

def fiveDigitDay : Int := 2932897

variable {text : List Char} {millis time : Nat} {date : Date} {clock : Clock}

theorem date_of_fits (since : 0 ≤ days) (until_ : days < fiveDigitDay) :
    (0 ≤ (dateOf days).year ∧ (dateOf days).year < 10000) ∧ (0 ≤ (dateOf days).month ∧ (dateOf days).month < 100) ∧
      0 ≤ (dateOf days).day ∧ (dateOf days).day < 100 := by
  obtain ⟨era, century, cycle, year, dayOfYear, month, split⟩ := split_days days
  have centuryFits := split.centuryFits
  have cycleFits := split.cycleFits
  have yearFits := split.yearFits
  have dayFits := split.dayFits
  have fits := split.monthFits
  have whole := split.whole
  simp only [epochDay] at whole
  simp only [fiveDigitDay] at until_
  rw [split.date]
  by_cases late : 10 ≤ month
  · simp only [if_pos late]
    have start : 306 ≤ monthStart month := by
      simp only [monthStart]
      omega
    omega
  · simp only [if_neg late]
    omega

theorem date_of_late (late : fiveDigitDay ≤ days) : 10000 ≤ (dateOf days).year := by
  obtain ⟨era, century, cycle, year, dayOfYear, month, split⟩ := split_days days
  have centuryFits := split.centuryFits
  have cycleFits := split.cycleFits
  have yearFits := split.yearFits
  have dayFits := split.dayFits
  have fits := split.monthFits
  have whole := split.whole
  simp only [epochDay] at whole
  simp only [fiveDigitDay] at late
  rw [split.date]
  by_cases wrapped : 10 ≤ month
  · simp only [if_pos wrapped]
    omega
  · simp only [if_neg wrapped]
    have before : monthStart month ≤ 275 := by
      simp only [monthStart]
      omega
    omega

def digitChar (digit : Nat) : Char := Char.ofNat (48 + digit)

theorem digit_char_reads (fits : digit < 10) : (digitChar digit).isDigit = true ∧ (digitChar digit).toNat - 48 = digit := by
  have each : ∀ digit < 10, (digitChar digit).isDigit = true ∧ (digitChar digit).toNat - 48 = digit := by decide
  exact each digit fits

def digits : Nat → Nat → List Char
  | 0, _ => []
  | width + 1, number => digitChar (number / 10 ^ width % 10) :: digits width number

def takeNumber : Nat → Nat → List Char → Option (Nat × List Char)
  | 0, value, text => some (value, text)
  | _ + 1, _, [] => none
  | width + 1, value, char :: rest =>
    if char.isDigit then takeNumber width (10 * value + (char.toNat - 48)) rest else none

theorem take_number_digits (width number : Nat) (rest : List Char) (value : Nat) :
    takeNumber width value (digits width number ++ rest) =
      some (value * 10 ^ width + number % 10 ^ width, rest) := by
  induction width generalizing value with
  | zero => simp [takeNumber, digits, Nat.mod_one]
  | succ width ih =>
    have leading : number / 10 ^ width % 10 < 10 := Nat.mod_lt _ (by omega)
    obtain ⟨digit, reads⟩ := digit_char_reads leading
    have whole : number % 10 ^ (width + 1) = number % 10 ^ width + 10 ^ width * (number / 10 ^ width % 10) := by
      rw [Nat.pow_succ, Nat.mod_mul]
    have shifted : (10 * value + number / 10 ^ width % 10) * 10 ^ width + number % 10 ^ width =
        value * 10 ^ (width + 1) + number % 10 ^ (width + 1) := by
      rw [whole, Nat.pow_succ]
      ring
    simp only [digits, List.cons_append, takeNumber]
    rw [if_pos digit, reads, ih, shifted]

def expect (wanted : Char) : List Char → Option (List Char)
  | [] => none
  | char :: rest => if char = wanted then some rest else none

theorem expect_cons (wanted : Char) (rest : List Char) : expect wanted (wanted :: rest) = some rest := by
  simp [expect]

-- The first three digits of the fraction count, and the others are only skipped.
def fraction : List Char → Option (Nat × List Char)
  | '.' :: rest =>
    match rest.takeWhile (·.isDigit) with
    | [] => none
    | listed => (takeNumber 3 0 (listed ++ ['0', '0'])).map fun (millis, _) => (millis, rest.dropWhile (·.isDigit))
  | text => some (0, text)

def offset (text : List Char) : Option (Int × List Char) := do
  let (hours, rest) ← takeNumber 2 0 text
  let rest ← expect ':' rest
  let (minutes, rest) ← takeNumber 2 0 rest
  if hours ≤ 23 ∧ minutes ≤ 59 then some (hours * 60 + minutes, rest) else none

-- How far the written time is ahead of UTC, in minutes.
def zone : List Char → Option (Int × List Char)
  | [] => none
  | sign :: rest =>
    if sign = 'Z' ∨ sign = 'z' then some (0, rest)
    else if sign = '+' then offset rest
    else if sign = '-' ∨ sign = '\u2212' then (offset rest).map fun (minutes, rest) => (-minutes, rest)
    else none

structure Clock where
  hour : Nat
  minute : Nat
  second : Nat
  millis : Nat

-- Sixty seconds is a leap second. A date of the calendar is one that its day gives back.
def instant (date : Date) (clock : Clock) (ahead : Int) : Option Int :=
  if dateOf (dayNumber date) = date ∧ clock.hour ≤ 23 ∧ clock.minute ≤ 59 ∧ clock.second ≤ 60 then
    some ((((dayNumber date * 24 + clock.hour) * 60 + clock.minute - ahead) * 60 + clock.second) * 1000 + clock.millis)
  else none

def readDate (text : List Char) : Option (Date × List Char) := do
  let (year, rest) ← takeNumber 4 0 text
  let rest ← expect '-' rest
  let (month, rest) ← takeNumber 2 0 rest
  let rest ← expect '-' rest
  let (day, rest) ← takeNumber 2 0 rest
  some ({ year := year, month := month, day := day }, rest)

def separator : List Char → Option (List Char)
  | [] => none
  | char :: rest => if char = 'T' ∨ char = 't' ∨ char = ' ' then some rest else none

def readClock (text : List Char) : Option (Clock × List Char) := do
  let (hour, rest) ← takeNumber 2 0 text
  let rest ← expect ':' rest
  let (minute, rest) ← takeNumber 2 0 rest
  let rest ← expect ':' rest
  let (second, rest) ← takeNumber 2 0 rest
  let (millis, rest) ← fraction rest
  some ({ hour, minute, second, millis }, rest)

def read (text : List Char) : Option Int := do
  let (date, rest) ← readDate text
  let rest ← separator rest
  let (clock, rest) ← readClock rest
  let (ahead, rest) ← zone rest
  if rest = [] then instant date clock ahead else none

def writeYear (year : Nat) : List Char := if year < 10000 then digits 4 year else '+' :: Nat.toDigits 10 year

def writeDate (date : Date) : List Char :=
  writeYear date.year.toNat ++ '-' :: (digits 2 date.month.toNat ++ '-' :: digits 2 date.day.toNat)

def clockOf (time : Nat) : Clock where
  hour := time / 3600000
  minute := time / 60000 % 60
  second := time / 1000 % 60
  millis := time % 1000

def writeClock (clock : Clock) : List Char :=
  digits 2 clock.hour ++ ':' :: (digits 2 clock.minute ++ ':' :: (digits 2 clock.second ++ '.' :: digits 3 clock.millis))

def latestYear : Int := 262142

def dayMillis : Nat := 86400000

def writeAt (date : Date) (clock : Clock) : Option (List Char) :=
  if date.year ≤ latestYear then some (writeDate date ++ 'T' :: (writeClock clock ++ ['Z'])) else none

def write (millis : Nat) : Option (List Char) :=
  writeAt (dateOf (millis / dayMillis : Nat)) (clockOf (millis % dayMillis))

theorem read_date_write (date : Date) (rest : List Char) (yearFits : 0 ≤ date.year ∧ date.year < 10000)
    (monthFits : 0 ≤ date.month ∧ date.month < 100) (dayFits : 0 ≤ date.day ∧ date.day < 100) :
    readDate (writeDate date ++ rest) = some (date, rest) := by
  have year : ((0 * 10 ^ 4 + date.year.toNat % 10 ^ 4 : Nat) : Int) = date.year := by omega
  have month : ((0 * 10 ^ 2 + date.month.toNat % 10 ^ 2 : Nat) : Int) = date.month := by omega
  have day : ((0 * 10 ^ 2 + date.day.toNat % 10 ^ 2 : Nat) : Int) = date.day := by omega
  have short : date.year.toNat < 10000 := by omega
  have text : writeDate date ++ rest = digits 4 date.year.toNat ++ '-' :: (digits 2 date.month.toNat ++ '-' ::
      (digits 2 date.day.toNat ++ rest)) := by
    simp only [writeDate, writeYear, if_pos short, List.append_assoc, List.cons_append]
  simp only [readDate, text, take_number_digits, expect_cons, Option.bind_eq_bind, Option.bind_some, year, month, day]

theorem digits_digit (width number : Nat) (char : Char) (listed : char ∈ digits width number) : char.isDigit = true := by
  induction width with
  | zero => cases listed
  | succ width ih =>
    rcases List.mem_cons.mp listed with first | later
    · rw [first]
      exact (digit_char_reads (Nat.mod_lt _ (by omega))).1
    · exact ih later

theorem fraction_digits (rest : List Char) (fits : millis < 1000) (ends : rest.head?.all (fun char => !char.isDigit) = true) :
    fraction ('.' :: (digits 3 millis ++ rest)) = some (millis, rest) := by
  have taken : (digits 3 millis ++ rest).takeWhile (·.isDigit) = digits 3 millis := by
    rw [List.takeWhile_append_of_pos (digits_digit 3 millis)]
    cases rest with
    | nil => simp
    | cons next others =>
      have stops : next.isDigit = false := by simpa using ends
      simp [stops]
  have dropped : (digits 3 millis ++ rest).dropWhile (·.isDigit) = rest := by
    rw [List.dropWhile_append_of_pos (digits_digit 3 millis)]
    cases rest with
    | nil => rfl
    | cons next others =>
      have stops : next.isDigit = false := by simpa using ends
      simp [stops]
  have small : 0 * 10 ^ 3 + millis % 10 ^ 3 = millis := by omega
  obtain ⟨first, others, listed⟩ : ∃ first others, digits 3 millis = first :: others := ⟨_, _, rfl⟩
  simp only [fraction, taken, dropped]
  rw [listed]
  simp only [← listed, take_number_digits, small, Option.map_some]

theorem read_clock_write (clock : Clock) (rest : List Char) (hour : clock.hour < 100) (minute : clock.minute < 100)
    (second : clock.second < 100) (millis : clock.millis < 1000) (ends : rest.head?.all (fun char => !char.isDigit) = true) :
    readClock (writeClock clock ++ rest) = some (clock, rest) := by
  have hour : 0 * 10 ^ 2 + clock.hour % 10 ^ 2 = clock.hour := by omega
  have minute : 0 * 10 ^ 2 + clock.minute % 10 ^ 2 = clock.minute := by omega
  have second : 0 * 10 ^ 2 + clock.second % 10 ^ 2 = clock.second := by omega
  have text : writeClock clock ++ rest = digits 2 clock.hour ++ ':' :: (digits 2 clock.minute ++ ':' ::
      (digits 2 clock.second ++ '.' :: (digits 3 clock.millis ++ rest))) := by
    simp only [writeClock, List.append_assoc, List.cons_append]
  simp only [readClock, text, take_number_digits, expect_cons, Option.bind_eq_bind, Option.bind_some, hour, minute, second,
    fraction_digits rest millis ends]

theorem instant_clock_of (fits : time < dayMillis) : instant (dateOf days) (clockOf time) 0 = some (days * dayMillis + time) := by
  simp only [dayMillis] at fits
  have calendar : dateOf (dayNumber (dateOf days)) = dateOf days := by rw [day_number_date_of]
  have hour : (clockOf time).hour ≤ 23 := by
    simp only [clockOf]
    omega
  have minute : (clockOf time).minute ≤ 59 := by
    simp only [clockOf]
    omega
  have second : (clockOf time).second ≤ 60 := by
    simp only [clockOf]
    omega
  have whole : (((days * 24 + (clockOf time).hour) * 60 + (clockOf time).minute - 0) * 60 + (clockOf time).second) * 1000 +
      (clockOf time).millis = days * dayMillis + time := by
    simp only [clockOf, dayMillis]
    omega
  simp only [instant]
  rw [if_pos ⟨calendar, hour, minute, second⟩, day_number_date_of, whole]

theorem read_write_at (written : writeAt date clock = some text)
    (dateFits : (0 ≤ date.year ∧ date.year < 10000) ∧ (0 ≤ date.month ∧ date.month < 100) ∧ 0 ≤ date.day ∧ date.day < 100)
    (clockFits : clock.hour < 100 ∧ clock.minute < 100 ∧ clock.second < 100 ∧ clock.millis < 1000) :
    read text = instant date clock 0 := by
  obtain ⟨year, month, day⟩ := dateFits
  obtain ⟨hour, minute, second, millis⟩ := clockFits
  have known : date.year ≤ latestYear := by
    simp only [latestYear]
    omega
  simp only [writeAt, if_pos known, Option.some.injEq] at written
  have dateRead := read_date_write date ('T' :: (writeClock clock ++ ['Z'])) year month day
  have clockRead := read_clock_write clock ['Z'] hour minute second millis (by decide)
  simp [read, ← written, dateRead, clockRead, separator, zone]

theorem clock_of_fits (fits : time < dayMillis) :
    (clockOf time).hour < 100 ∧ (clockOf time).minute < 100 ∧ (clockOf time).second < 100 ∧ (clockOf time).millis < 1000 := by
  simp only [dayMillis] at fits
  simp only [clockOf]
  omega

theorem read_write (written : write millis = some text)
    (early : (millis / dayMillis : Nat) < fiveDigitDay) : read text = some (millis : Int) := by
  have since : (0 : Int) ≤ (millis / dayMillis : Nat) := Int.natCast_nonneg _
  have time : millis % dayMillis < dayMillis := Nat.mod_lt _ (by decide)
  have sum : ((millis / dayMillis : Nat) : Int) * dayMillis + (millis % dayMillis : Nat) = millis := by
    exact_mod_cast Nat.div_add_mod' millis dayMillis
  rw [read_write_at written (date_of_fits since early) (clock_of_fits time), instant_clock_of time, sum]

theorem read_signed : read ('+' :: rest) = none := rfl

theorem read_write_at_late (written : writeAt date clock = some text) (late : 10000 ≤ date.year) : read text = none := by
  have long : ¬ date.year.toNat < 10000 := by omega
  by_cases known : date.year ≤ latestYear
  · simp only [writeAt, if_pos known, Option.some.injEq, writeDate, writeYear, if_neg long, List.cons_append] at written
    rw [← written]
    exact read_signed
  · simp only [writeAt, if_neg known] at written
    cases written

theorem read_write_late (written : write millis = some text)
    (late : fiveDigitDay ≤ (millis / dayMillis : Nat)) : read text = none :=
  read_write_at_late written (date_of_late late)

def fiveDigitMillis : Nat := 253402300800000

theorem five_digit_early (millis : Nat) : millis < fiveDigitMillis ↔ (millis / dayMillis : Nat) < fiveDigitDay := by
  simp only [fiveDigitMillis, fiveDigitDay, dayMillis]
  omega

end AgentRoom.Library
