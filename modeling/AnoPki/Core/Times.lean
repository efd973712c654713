import AnoPki.Core.Requests
import AnoPki.Foundation.Basic
import AnoPki.Foundation.Time

/-! # Times of certificates and of revocation lists

The core reads RFC 3339 texts in two places. When it issues a certificate it reads them with their
fraction and zone, brings them to whole seconds in UTC and writes them again; when it makes a
revocation list it only takes the separators out. `parseRfc3339ToUtc_rfc3339Nano` says that the
first reader finds the second a text tells. -/
namespace AnoPki.Core

open Foundation List Time Text
open CycleDay hiding ofDays
open CivilDate (ofDays)

structure UtcDateTime where
  year : Int := 0
  month : Int := 0
  day : Int := 0
  hour : Int := 0
  minute : Int := 0
  second : Int := 0
deriving DecidableEq, Repr

def invalidTime : Text := "issue.invalid_time"

def expectChar (value : Text) (index : Nat) (expected : Char) : Except Text Unit :=
  if value[index]? = some expected then .ok () else .error invalidTime

def digitAt (value : Text) (index : Nat) : Except Text Int :=
  match value[index]? with
  | some ch => if ch.isDigit then .ok (ch.toNat - '0'.toNat) else .error invalidTime
  | none => .error invalidTime

def parseTwoDigits (value : Text) (index : Nat) : Except Text Int := do
  return (← digitAt value index) * 10 + (← digitAt value (index + 1))

def parseFourDigits (value : Text) (index : Nat) : Except Text Int := do
  return (← parseTwoDigits value index) * 100 + (← parseTwoDigits value (index + 2))

def isLeapYear (year : Int) : Bool :=
  (year.tmod 4 = 0 && year.tmod 100 ≠ 0) || year.tmod 400 = 0

def daysInMonth (year month : Int) : Int :=
  if month = 2 ∧ isLeapYear year then 29
  else [0, 31, 28, 31, 30, 31, 30, 31, 31, 30, 31, 30, 31].getD month.toNat 0

def daysFromCivil (year month day : Int) : Int :=
  let year := if month ≤ 2 then year - 1 else year
  let era := (if year ≥ 0 then year else year - 399).tdiv 400
  let yearOfEra := year - era * 400
  let adjustedMonth := month + (if month > 2 then -3 else 9)
  let dayOfYear := (153 * adjustedMonth + 2).tdiv 5 + day - 1
  let dayOfEra := yearOfEra * 365 + yearOfEra.tdiv 4 - yearOfEra.tdiv 100 + dayOfYear
  era * 146097 + dayOfEra - 719468

def civilFromDays (days : Int) : UtcDateTime :=
  let days := days + 719468
  let era := (if days ≥ 0 then days else days - 146096).tdiv 146097
  let dayOfEra := days - era * 146097
  let yearOfEra := (dayOfEra - dayOfEra.tdiv 1460 + dayOfEra.tdiv 36524 -
    dayOfEra.tdiv 146096).tdiv 365
  let year := yearOfEra + era * 400
  let dayOfYear := dayOfEra - (365 * yearOfEra + yearOfEra.tdiv 4 - yearOfEra.tdiv 100)
  let monthPrime := (5 * dayOfYear + 2).tdiv 153
  let day := dayOfYear - (153 * monthPrime + 2).tdiv 5 + 1
  let month := monthPrime + (if monthPrime < 10 then 3 else -9)
  { year := if month ≤ 2 then year + 1 else year, month, day }

def utcFromSeconds (seconds : Int) : UtcDateTime :=
  let days := seconds.tdiv 86400
  let remaining := seconds.tmod 86400
  let (days, remaining) :=
    if remaining < 0 then (days - 1, remaining + 86400) else (days, remaining)
  { civilFromDays days with
    hour := remaining.tdiv 3600
    minute := (remaining.tmod 3600).tdiv 60
    second := (remaining.tmod 3600).tmod 60 }

def validateLocalTime (value : UtcDateTime) : Except Text Unit :=
  if value.year < 1950 ∨ value.month < 1 ∨ value.month > 12 ∨ value.day < 1 ∨
      value.day > daysInMonth value.year value.month ∨ value.hour > 23 ∨ value.minute > 59 ∨
      value.second > 59 then .error invalidTime
  else .ok ()

def formatRfc3339Utc (value : UtcDateTime) : Text :=
  padded 4 value.year.toNat ++ '-' :: padded 2 value.month.toNat ++
    '-' :: padded 2 value.day.toNat ++ 'T' :: padded 2 value.hour.toNat ++
    ':' :: padded 2 value.minute.toNat ++ ':' :: padded 2 value.second.toNat ++ ['Z']

/-- What follows the seconds of a text, without its fraction. -/
def skipFraction : Text → Except Text Text
  | '.' :: rest =>
    if rest.takeWhile Char.isDigit = [] then .error invalidTime
    else .ok (rest.dropWhile Char.isDigit)
  | rest => .ok rest

/-- The offset in a zone, which is the rest of a text. -/
def parseZone (zone : Text) : Except Text Int :=
  match zone with
  | 'Z' :: rest => if rest = [] then .ok 0 else .error invalidTime
  | sign :: _ =>
    if 6 ≤ zone.length ∧ (sign = '+' ∨ sign = '-') then do
      let offsetHours ← parseTwoDigits zone 1
      expectChar zone 3 ':'
      let offsetMinutes ← parseTwoDigits zone 4
      if offsetHours > 23 ∨ offsetMinutes > 59 then .error invalidTime
      else if zone.length ≠ 6 then .error invalidTime
      else .ok ((if sign = '+' then 1 else -1) * (offsetHours * 3600 + offsetMinutes * 60))
    else .error invalidTime
  | [] => .error invalidTime

def parseRfc3339ToUtc (value : Text) : Except Text UtcDateTime := do
  if value.length < 20 then .error invalidTime
  else
    expectChar value 4 '-'
    expectChar value 7 '-'
    expectChar value 10 'T'
    expectChar value 13 ':'
    expectChar value 16 ':'
    let year ← parseFourDigits value 0
    let month ← parseTwoDigits value 5
    let day ← parseTwoDigits value 8
    let hour ← parseTwoDigits value 11
    let minute ← parseTwoDigits value 14
    let second ← parseTwoDigits value 17
    validateLocalTime { year, month, day, hour, minute, second }
    let zone ← skipFraction (value.drop 19)
    let offsetSeconds ← parseZone zone
    let localSeconds := daysFromCivil year month day * 86400 + hour * 3600 + minute * 60 + second
    let utc := utcFromSeconds (localSeconds - offsetSeconds)
    if utc.year < 1950 ∨ utc.year > 9999 then .error invalidTime else .ok utc

def asn1TimeFromUtc (value : UtcDateTime) : Text :=
  let formatted := formatRfc3339Utc value
  (if value.year < 2050 then (formatted.drop 2).take 2 else formatted.take 4) ++
    (formatted.drop 5).take 2 ++ (formatted.drop 8).take 2 ++ (formatted.drop 11).take 2 ++
    (formatted.drop 14).take 2 ++ (formatted.drop 17).take 2 ++ ['Z']

def normalizeRfc3339Utc (value : Text) : Except Text Text := do
  return formatRfc3339Utc (← parseRfc3339ToUtc value)

/-- The text that `issue_certificate` sets a certificate's time from. -/
def Issue.asn1TimeFromRfc3339 (value : Text) : Except Text Text := do
  return asn1TimeFromUtc (← parseRfc3339ToUtc value)

def rfc3339FromTime (seconds : Int) : Text := formatRfc3339Utc (utcFromSeconds seconds)

structure ResolvedTimes where
  notBefore : Text
  notAfter : Text
deriving DecidableEq, Repr

/-- A time of a request, or the default when it is not given. -/
def resolveTime (value default : Text) : Except Text Text :=
  if value = [] then .ok default else normalizeRfc3339Utc value

/-- The times of a certificate; `now` is what the clock of the core shows. -/
def resolveTimes (now : Int) (request : IssueRequest) : Except Text ResolvedTimes := do
  let notBefore ← resolveTime request.notBefore (rfc3339FromTime now)
  let notAfter ← resolveTime request.notAfter (rfc3339FromTime (now + 90 * 24 * 60 * 60))
  return { notBefore, notAfter }

/-- The interval that `issue_certificate` gives a certificate: `set_certificate_time` reads the
resolved texts again. -/
def validityInterval (now : Int) (request : IssueRequest) :
    Except Text (UtcDateTime × UtcDateTime) := do
  let times ← resolveTimes now request
  return (← parseRfc3339ToUtc times.notBefore, ← parseRfc3339ToUtc times.notAfter)

/-- The number of a second of the calendar. -/
def UtcDateTime.seconds (value : UtcDateTime) : Int :=
  daysFromCivil value.year value.month value.day * 86400 + value.hour * 3600 + value.minute * 60 +
    value.second

/-- The text that `generate_crl` sets a list's times from. -/
def Crl.asn1TimeFromRfc3339 (value : Text) : Except Text Text :=
  if value.length ≠ 20 ∨ value[4]? ≠ some '-' ∨ value[7]? ≠ some '-' ∨ value[10]? ≠ some 'T' ∨
      value[13]? ≠ some ':' ∨ value[16]? ≠ some ':' ∨ value[19]? ≠ some 'Z' then
    .error "crl.invalid_time"
  else
    .ok (value.take 4 ++ (value.drop 5).take 2 ++ (value.drop 8).take 2 ++ (value.drop 11).take 2 ++
      (value.drop 14).take 2 ++ (value.drop 17).take 2 ++ ['Z'])

/-- The days from 0001-01-01 to 1970-01-01. -/
def epochDays : Int := 719162

/-- The parts of a day number in the calendar's cycle, for days from the year 1 on. -/
structure CycleParts (days : Int) (cycle : CycleDay) : Prop where
  era : 0 ≤ cycle.era
  century : 0 ≤ cycle.century ∧ cycle.century ≤ 3
  leapCycle : 0 ≤ cycle.leapCycle ∧ cycle.leapCycle ≤ 24
  year : 0 ≤ cycle.year ∧ cycle.year ≤ 3
  day : 0 ≤ cycle.day ∧ cycle.day ≤ 365
  /-- Only the last year of a leap cycle has a leap day, unless the century ends without one. -/
  leapDay : cycle.day = 365 → cycle.year = 3 ∧ (cycle.leapCycle < 24 ∨ cycle.century = 3)
  whole : 146097 * cycle.era + 36524 * cycle.century + 1461 * cycle.leapCycle + 365 * cycle.year +
    cycle.day = days + 306

theorem cycleParts_ofDays {days : Int} (early : 0 ≤ days) :
    CycleParts days (CycleDay.ofDays days) := by
  obtain ⟨century, leapCycle, year, day⟩ := bounded_ofDays days
  refine ⟨?_, century, leapCycle, year, day, ?_, days_ofDays days⟩
  · simp only [CycleDay.ofDays]
    omega
  · simp only [CycleDay.ofDays]
    omega

/-- The day number of a date of the calendar. -/
theorem daysFromCivil_ofDays {days : Int} (early : 0 ≤ days) :
    daysFromCivil (ofDays days).year (ofDays days).month
      (ofDays days).day = days - epochDays := by
  have parts := cycleParts_ofDays early
  rw [ofDays]
  generalize CycleDay.ofDays days = cycle at parts
  obtain ⟨era, century, leapCycle, year, day, -, whole⟩ := parts
  have months : 0 ≤ cycle.month ∧ cycle.month ≤ 11 := by
    simp only [month]
    omega
  -- The year that begins in March is the same in both halves of it.
  have shifted : (if cycle.civil.month ≤ 2 then cycle.civil.year - 1 else cycle.civil.year) =
      400 * cycle.era + (100 * cycle.century + 4 * cycle.leapCycle + cycle.year) := by
    simp only [civil]
    split <;> split <;> omega
  have adjusted : cycle.civil.month + (if cycle.civil.month > 2 then -3 else 9) = cycle.month := by
    simp only [civil]
    split <;> split <;> omega
  have dayOf : cycle.civil.day = cycle.day - (153 * cycle.month + 2) / 5 + 1 := rfl
  simp only [daysFromCivil, shifted, adjusted, dayOf]
  generalize cycle.month = month at months
  rw [if_pos (by omega), Int.tdiv_eq_ediv_of_nonneg (by omega),
    show (400 * cycle.era + (100 * cycle.century + 4 * cycle.leapCycle + cycle.year)) / 400 =
      cycle.era by omega]
  rw [show 400 * cycle.era + (100 * cycle.century + 4 * cycle.leapCycle + cycle.year) -
    cycle.era * 400 = 100 * cycle.century + 4 * cycle.leapCycle + cycle.year by omega,
    Int.tdiv_eq_ediv_of_nonneg (by omega), Int.tdiv_eq_ediv_of_nonneg (by omega),
    Int.tdiv_eq_ediv_of_nonneg (by omega), epochDays]
  omega

/-- The year of the 400-year cycle that a day is in. -/
theorem yearOfEra_eq {century leapCycle year day : Int} (centuries : 0 ≤ century ∧ century ≤ 3)
    (leapCycles : 0 ≤ leapCycle ∧ leapCycle ≤ 24) (years : 0 ≤ year ∧ year ≤ 3)
    (days : 0 ≤ day ∧ day ≤ 365)
    (leapDay : day = 365 → year = 3 ∧ (leapCycle < 24 ∨ century = 3)) {dayOfEra : Int}
    (whole : dayOfEra = 36524 * century + 1461 * leapCycle + 365 * year + day) :
    (dayOfEra - dayOfEra / 1460 + dayOfEra / 36524 - dayOfEra / 146096) / 365 =
      100 * century + 4 * leapCycle + year := by
  have inCentury : 0 ≤ 1461 * leapCycle + 365 * year + day ∧
      (1461 * leapCycle + 365 * year + day ≤ 36523 ∨
        (1461 * leapCycle + 365 * year + day = 36524 ∧ century = 3)) := by omega
  have centuriesBefore : dayOfEra / 36524 - dayOfEra / 146096 = century := by
    rcases inCentury with ⟨low, high | ⟨last, final⟩⟩
    · have early : dayOfEra / 146096 = 0 := by omega
      omega
    · obtain rfl : dayOfEra = 146096 := by omega
      omega
  have leapDays : dayOfEra / 1460 = 25 * century + leapCycle +
      (if 1460 ≤ 24 * century + leapCycle + 365 * year + day then 1 else 0) := by
    clear centuriesBefore inCentury leapDay
    split <;> omega
  rw [leapDays, add_sub_assoc, centuriesBefore, whole]
  clear centuriesBefore inCentury leapDays whole
  split <;> omega

/-- The day of the year and the year that the core finds in a day of the 400-year cycle. -/
theorem dayOfYear_eq {century leapCycle year day : Int}
    (leapCycles : 0 ≤ leapCycle ∧ leapCycle ≤ 24) (years : 0 ≤ year ∧ year ≤ 3) :
    36524 * century + 1461 * leapCycle + 365 * year + day -
      (365 * (100 * century + 4 * leapCycle + year) + (100 * century + 4 * leapCycle + year) / 4 -
        (100 * century + 4 * leapCycle + year) / 100) = day := by
  omega

/-- The date of a day number. -/
theorem civilFromDays_eq {days : Int} (early : 0 ≤ days) : civilFromDays (days - epochDays) = {
      year := (ofDays days).year
      month := (ofDays days).month
      day := (ofDays days).day } := by
  have parts := cycleParts_ofDays early
  rw [ofDays]
  generalize CycleDay.ofDays days = cycle at parts
  obtain ⟨era, century, leapCycle, year, day, leapDay, whole⟩ := parts
  have bound : 0 ≤ 36524 * cycle.century + 1461 * cycle.leapCycle + 365 * cycle.year + cycle.day ∧
      36524 * cycle.century + 1461 * cycle.leapCycle + 365 * cycle.year + cycle.day < 146097 := by
    omega
  have years := yearOfEra_eq century leapCycle year day leapDay rfl
  have dayOfYear := @dayOfYear_eq cycle.century _ _ cycle.day leapCycle year
  have yearBound : 0 ≤ 100 * cycle.century + 4 * cycle.leapCycle + cycle.year := by omega
  have months : 0 ≤ cycle.month ∧ cycle.month ≤ 11 := by
    simp only [month]
    omega
  have shifted : days - epochDays + 719468 = 146097 * cycle.era +
      (36524 * cycle.century + 1461 * cycle.leapCycle + 365 * cycle.year + cycle.day) := by
    rw [epochDays]
    omega
  clear whole leapDay early
  simp only [civilFromDays, shifted]
  generalize 36524 * cycle.century + 1461 * cycle.leapCycle + 365 * cycle.year + cycle.day =
    dayOfEra at *
  generalize same : 100 * cycle.century + 4 * cycle.leapCycle + cycle.year = yearOfEra at *
  have eras : (146097 * cycle.era + dayOfEra).tdiv 146097 = cycle.era := by
    rw [Int.tdiv_eq_ediv_of_nonneg (by omega)]
    omega
  have rest : 146097 * cycle.era + dayOfEra - cycle.era * 146097 = dayOfEra := by omega
  have later : 0 ≤ 146097 * cycle.era + dayOfEra := by omega
  have positive : 0 ≤ dayOfEra - dayOfEra / 1460 + dayOfEra / 36524 - dayOfEra / 146096 := by omega
  have month : (5 * cycle.day + 2).tdiv 153 = cycle.month := by
    rw [Int.tdiv_eq_ediv_of_nonneg (by omega), month]
  have dayOf : (153 * cycle.month + 2).tdiv 5 = (153 * cycle.month + 2) / 5 :=
    Int.tdiv_eq_ediv_of_nonneg (by omega)
  simp only [ge_iff_le, if_pos later, eras, rest, Int.tdiv_eq_ediv_of_nonneg bound.1,
    Int.tdiv_eq_ediv_of_nonneg positive, years, Int.tdiv_eq_ediv_of_nonneg yearBound,
    dayOfYear, month, dayOf, civil]
  by_cases early : cycle.month < 10
  · simp only [if_pos early, if_neg (show ¬ cycle.month + 3 ≤ 2 by omega), UtcDateTime.mk.injEq,
      and_true]
    omega
  · simp only [if_neg early, if_pos (show cycle.month + -9 ≤ 2 by omega), UtcDateTime.mk.injEq,
      and_true]
    omega

/-- Division that rounds down, as the core makes it from one that rounds to zero. -/
theorem floorSplit_eq (n : Int) : (if n.tmod 86400 < 0 then (n.tdiv 86400 - 1, n.tmod 86400 + 86400)
      else (n.tdiv 86400, n.tmod 86400)) = (n / 86400, n % 86400) := by
  by_cases negative : n < 0
  · obtain ⟨m, rfl⟩ : ∃ m, n = -m := ⟨-n, by omega⟩
    rw [Int.neg_tmod, Int.neg_tdiv, Int.tmod_eq_emod_of_nonneg (by omega),
      Int.tdiv_eq_ediv_of_nonneg (by omega)]
    split
    · simp only [Prod.mk.injEq]
      omega
    · simp only [Prod.mk.injEq]
      omega
  · rw [Int.tmod_eq_emod_of_nonneg (by omega), Int.tdiv_eq_ediv_of_nonneg (by omega),
      if_neg (by omega)]

/-- The second of the calendar with a number counted from 0001-01-01T00:00:00. -/
def UtcDateTime.ofSeconds (seconds : Int) : UtcDateTime where
  year := (ofDays (seconds / 86400)).year
  month := (ofDays (seconds / 86400)).month
  day := (ofDays (seconds / 86400)).day
  hour := seconds % 86400 / 3600
  minute := seconds % 86400 / 60 % 60
  second := seconds % 86400 % 60

theorem utcFromSeconds_eq {seconds : Int} (early : 0 ≤ seconds) :
    utcFromSeconds (seconds - epochDays * 86400) = .ofSeconds seconds := by
  have days : (seconds - epochDays * 86400) / 86400 = seconds / 86400 - epochDays := by
    rw [epochDays]
    omega
  have rest : (seconds - epochDays * 86400) % 86400 = seconds % 86400 := by
    rw [epochDays]
    omega
  have low : 0 ≤ seconds % 86400 := by omega
  simp only [utcFromSeconds, floorSplit_eq, days, rest,
    civilFromDays_eq (show 0 ≤ seconds / 86400 by omega), Int.tdiv_eq_ediv_of_nonneg low,
    Int.tmod_eq_emod_of_nonneg low, UtcDateTime.ofSeconds]
  rw [Int.tdiv_eq_ediv_of_nonneg (by omega), Int.tmod_eq_emod_of_nonneg (by omega)]
  simp only [UtcDateTime.mk.injEq, true_and]
  omega

section Digits

/-- Two digits. -/
def two (n : Nat) : Text := [Nat.digitChar (n / 10), Nat.digitChar (n % 10)]

/-- The last digit of a padded number. -/
theorem padded_succ {width n : Nat} (positive : 0 < width) :
    padded (width + 1) n = padded width (n / 10) ++ [Nat.digitChar (n % 10)] := by
  obtain ⟨width, rfl⟩ : ∃ k, width = k + 1 := ⟨width - 1, by omega⟩
  by_cases small : n < 10
  · have zero : n / 10 = 0 := by omega
    have same : n % 10 = n := by omega
    rw [zero, same, padded, padded, decimal, decimal, Nat.toDigits_of_lt_base small,
      Nat.toDigits_of_lt_base (by decide)]
    simp [replicate_succ']
  · rw [padded, padded, decimal, decimal,
      Nat.toDigits_of_base_le (by decide) (by omega), length_append, length_singleton,
      Nat.add_sub_add_right, append_assoc]

theorem padded_two {n : Nat} (small : n < 100) : padded 2 n = two n := by
  have one : ∀ k < 10, padded 1 k = [Nat.digitChar k] := by decide
  rw [padded_succ (by decide), one _ (by omega), two, singleton_append]

theorem padded_four {n : Nat} (small : n < 10000) :
    padded 4 n = two (n / 100) ++ two (n % 100) := by
  have tens : n / 10 % 10 = n % 100 / 10 := by omega
  have ones : n % 100 % 10 = n % 10 := by omega
  rw [padded_succ (by decide), padded_succ (by decide), padded_two (by omega), append_assoc,
    Nat.div_div_eq_div_mul, tens, ← ones]
  rfl

theorem digit_value : ∀ k < 10, (Nat.digitChar k).isDigit ∧ (Nat.digitChar k).toNat = 48 + k := by
  decide +kernel

variable {value : Text} {index n : Nat}

theorem digitAt_eq (here : value[index]? = some (Nat.digitChar n)) (small : n < 10) :
    digitAt value index = .ok n := by
  obtain ⟨digit, code⟩ := digit_value n small
  rw [digitAt, here]
  simp only [digit, code, if_true]
  congr 1
  have zero : '0'.toNat = 48 := rfl
  omega

theorem parseTwoDigits_eq (first : value[index]? = some (Nat.digitChar (n / 10)))
    (second : value[index + 1]? = some (Nat.digitChar (n % 10))) (small : n < 100) :
    parseTwoDigits value index = .ok n := by
  rw [parseTwoDigits, digitAt_eq first (by omega), digitAt_eq second (by omega)]
  change Except.ok _ = _
  congr 1
  omega

end Digits

section Reading

/-- The lengths of the months from March to January. -/
theorem monthLength : ∀ k : Nat, k < 11 →
    ([0, 31, 28, 31, 30, 31, 30, 31, 31, 30, 31, 30, 31] : List Int).getD
        (if (k : Int) < 10 then (k : Int) + 3 else (k : Int) - 9).toNat 0 =
      (153 * ((k : Int) + 1) + 2) / 5 - (153 * (k : Int) + 2) / 5 := by
  decide +kernel

/-- A date of the calendar is one of its month. -/
theorem day_le_daysInMonth {days : Int} (early : 0 ≤ days) : (ofDays days).day ≤
      daysInMonth (ofDays days).year (ofDays days).month := by
  have parts := cycleParts_ofDays early
  rw [ofDays]
  generalize CycleDay.ofDays days = cycle at parts
  obtain ⟨era, century, leapCycle, year, day, leapDay, whole⟩ := parts
  have month : cycle.month = (5 * cycle.day + 2) / 153 := rfl
  have bounds : 0 ≤ cycle.month ∧ cycle.month ≤ 11 := by omega
  by_cases february : cycle.month = 11
  · have dates : cycle.civil.month = 2 ∧ cycle.civil.day = cycle.day - 337 + 1 ∧ cycle.civil.year =
        400 * cycle.era + 100 * cycle.century + 4 * cycle.leapCycle + cycle.year + 1 := by
      simp only [civil, february]
      omega
    by_cases last : cycle.day = 365
    · obtain ⟨fourth, divides⟩ := leapDay last
      have leap : isLeapYear cycle.civil.year := by
        simp only [isLeapYear, dates.2.2, fourth, Bool.or_eq_true, Bool.and_eq_true,
          decide_eq_true_iff, Int.tmod_eq_emod_of_nonneg (show 0 ≤ 400 * cycle.era +
            100 * cycle.century + 4 * cycle.leapCycle + 3 + 1 by omega)]
        omega
      rw [daysInMonth, if_pos ⟨dates.1, leap⟩, dates.2.1]
      omega
    · have short : cycle.civil.day ≤ 28 := by omega
      rw [daysInMonth]
      split
      · omega
      · rw [dates.1]
        exact short
  · have elsewhere : cycle.civil.month ≠ 2 := by
      simp only [civil]
      split <;> omega
    obtain ⟨k, same⟩ : ∃ k : Nat, cycle.month = k := ⟨cycle.month.toNat, by omega⟩
    have length := monthLength k (by omega)
    rw [← same] at length
    rw [daysInMonth, if_neg (fun both => elsewhere both.1), civil, length]
    dsimp only
    omega

/-- The second that the text of a time tells. It has no seconds in its zone. -/
def wireSeconds (t : Time) : Int := t.localNanos / 1000000000 - 60 * t.offset.tdiv 60

variable {days second offset : Int} {tail : Text}

/-- The reader finds the date and the clock of a text, and an offset in the rest of it. -/
theorem parseRfc3339ToUtc_text (low : 1950 ≤ (ofDays days).year)
    (high : (ofDays days).year ≤ 9999) (clock : 0 ≤ second ∧ second < 86400)
    (nonempty : tail ≠ []) (early : 0 ≤ days)
    (zoned : (do parseZone (← skipFraction tail)) = .ok offset) :
    parseRfc3339ToUtc (dateText days ++ 'T' :: (clockText second ++ tail)) =
      let utc := utcFromSeconds ((days - epochDays) * 86400 + second - offset)
      if utc.year < 1950 ∨ utc.year > 9999 then .error invalidTime else .ok utc := by
  have month := CivilDate.month_bounds days
  have day := CivilDate.day_bounds days
  have inMonth := day_le_daysInMonth early
  have number := daysFromCivil_ofDays early
  obtain ⟨year, yearEq⟩ : ∃ n : Nat, (ofDays days).year = n :=
    ⟨(ofDays days).year.toNat, by omega⟩
  obtain ⟨monthN, monthEq⟩ : ∃ n : Nat, (ofDays days).month = n :=
    ⟨(ofDays days).month.toNat, by omega⟩
  obtain ⟨dayN, dayEq⟩ : ∃ n : Nat, (ofDays days).day = n :=
    ⟨(ofDays days).day.toNat, by omega⟩
  obtain ⟨secondN, rfl⟩ : ∃ n : Nat, second = n := ⟨second.toNat, by omega⟩
  rw [yearEq, monthEq, dayEq] at inMonth number
  rw [yearEq] at low high
  rw [monthEq] at month
  rw [dayEq] at day
  have dated : dateText days = two (year / 100) ++ two (year % 100) ++ '-' :: two monthN ++
      '-' :: two dayN := by
    rw [dateText, yearText, monthDayText, yearEq, monthEq, dayEq, if_neg (by omega),
      Int.toNat_natCast, Int.toNat_natCast, Int.toNat_natCast, padded_four (by omega),
      padded_two (by omega), padded_two (by omega)]
    simp
  have clocked : clockText secondN = two (secondN / 3600) ++ ':' :: two (secondN / 60 % 60) ++
      ':' :: two (secondN % 60) := by
    rw [clockText, show ((secondN : Int) / 3600).toNat = secondN / 3600 by omega,
      show ((secondN : Int) / 60 % 60).toNat = secondN / 60 % 60 by omega,
      show ((secondN : Int) % 60).toNat = secondN % 60 by omega,
      padded_two (by omega), padded_two (by omega), padded_two (by omega)]
  rw [dated, clocked]
  -- The digits of the text are read in their places.
  generalize whole : two (year / 100) ++ two (year % 100) ++ '-' :: two monthN ++ '-' :: two dayN ++
    'T' :: (two (secondN / 3600) ++ ':' :: two (secondN / 60 % 60) ++ ':' :: two (secondN % 60) ++
      tail) = value
  obtain ⟨centuries, years, months, dates, hours, minutes, seconds⟩ :
      parseTwoDigits value 0 = .ok (year / 100 : Nat) ∧
      parseTwoDigits value (0 + 2) = .ok (year % 100 : Nat) ∧
      parseTwoDigits value 5 = .ok (monthN : Nat) ∧ parseTwoDigits value 8 = .ok (dayN : Nat) ∧
      parseTwoDigits value 11 = .ok (secondN / 3600 : Nat) ∧
      parseTwoDigits value 14 = .ok (secondN / 60 % 60 : Nat) ∧
      parseTwoDigits value 17 = .ok (secondN % 60 : Nat) := by
    subst whole
    refine ⟨?_, ?_, ?_, ?_, ?_, ?_, ?_⟩ <;> exact parseTwoDigits_eq rfl rfl (by omega)
  have fourDigits : parseFourDigits value 0 = .ok (year : Nat) := by
    rw [parseFourDigits, centuries, years]
    change Except.ok _ = _
    congr 1
    omega
  have marks : expectChar value 4 '-' = .ok () ∧ expectChar value 7 '-' = .ok () ∧
      expectChar value 10 'T' = .ok () ∧ expectChar value 13 ':' = .ok () ∧
      expectChar value 16 ':' = .ok () := by
    subst whole
    exact ⟨rfl, rfl, rfl, rfl, rfl⟩
  have rest : value.drop 19 = tail := by
    subst whole
    rfl
  have long : ¬ value.length < 20 := by
    have := length_pos_iff.mpr nonempty
    have := congrArg List.length rest
    rw [length_drop] at this
    omega
  have valid : validateLocalTime ⟨year, monthN, dayN, (secondN / 3600 : Nat),
      (secondN / 60 % 60 : Nat), (secondN % 60 : Nat)⟩ = .ok () := by
    rw [validateLocalTime, if_neg]
    dsimp only
    omega
  have total : (days - epochDays) * 86400 + ((secondN / 3600 : Nat) : Int) * 3600 +
      ((secondN / 60 % 60 : Nat) : Int) * 60 + ((secondN % 60 : Nat) : Int) =
        (days - epochDays) * 86400 + secondN := by omega
  obtain ⟨zone, skipped, parsed⟩ := Except.bind_eq_ok.mp zoned
  rw [parseRfc3339ToUtc, if_neg long, marks.1, marks.2.1, marks.2.2.1, marks.2.2.2.1, marks.2.2.2.2,
    fourDigits, months, dates, hours, minutes, seconds, rest, skipped]
  simp only [bind, Except.bind, valid, parsed, number, total]

theorem trimZeros_subset (digits : Text) : trimZeros digits ⊆ digits := by
  induction digits with
  | nil => exact nil_subset _
  | cons c rest ih =>
    rw [trimZeros]
    split
    · exact nil_subset _
    · exact cons_subset_cons c ih

theorem trimZeros_ne_nil {n : Nat} (positive : n ≠ 0) (small : n < 1000000000) :
    trimZeros (padded 9 n) ≠ [] := by
  intro empty
  have zeros : ∀ c ∈ padded 9 n, c = '0' := by
    cases digits : padded 9 n with
    | nil =>
      nofun
    | cons first rest =>
      rw [digits, trimZeros] at empty
      split at empty
      · next all =>
        intro c inside
        simpa using all_eq_true.mp all c inside
      · cases empty
  have same : padded 9 n = padded 9 0 := by
    have length : (padded 9 n).length = 9 := length_padded (by decide) (by omega)
    rw [eq_replicate_of_mem zeros, length]
    rfl
  exact positive (padded_injective same)

/-- The fraction of a second is skipped. -/
theorem skipFraction_fractionText {nanos : Int} (low : 0 ≤ nanos) (high : nanos < 1000000000) :
    skipFraction (fractionText nanos ++ zoneText offset) = .ok (zoneText offset) := by
  obtain ⟨c, rest, zone, other, point⟩ := zoneText_head offset
  rw [zone, fractionText]
  split
  · rw [nil_append, skipFraction]
    rintro _ ⟨⟩
    exact point rfl
  · next nonzero =>
    have digits : ∀ d ∈ trimZeros (padded 9 nanos.toNat), d.isDigit := by
      intro d inside
      exact isDigit_of_mem_padded (trimZeros_subset _ inside)
    rw [cons_append, skipFraction,
      takeWhile_append_of_pos digits, dropWhile_append_of_pos digits, if_neg]
    · rw [dropWhile_cons_of_neg other]
    · intro empty
      exact trimZeros_ne_nil (by omega) (by omega) (append_eq_nil_iff.mp empty).1

theorem parseZone_signed {sign} {hours minutes : Nat} (signed : sign = '+' ∨ sign = '-')
    (day : hours < 24) (hour : minutes < 60) :
    parseZone (sign :: (two hours ++ ':' :: two minutes)) =
      .ok ((if sign = '+' then 1 else -1) * (hours * 3600 + minutes * 60)) := by
  have first : parseTwoDigits (sign :: (two hours ++ ':' :: two minutes)) 1 = .ok (hours : Nat) :=
    parseTwoDigits_eq rfl rfl (by omega)
  have second : parseTwoDigits (sign :: (two hours ++ ':' :: two minutes))
      4 = .ok (minutes : Nat) :=
    parseTwoDigits_eq rfl rfl (by omega)
  have mark : expectChar (sign :: (two hours ++ ':' :: two minutes)) 3 ':' = .ok () := rfl
  have length : (sign :: (two hours ++ ':' :: two minutes)).length = 6 := rfl
  have within : ¬ ((hours : Int) > 23 ∨ (minutes : Int) > 59) := by omega
  have other : sign ≠ 'Z' := by
    rcases signed with rfl | rfl <;> decide
  rw [parseZone]
  · rw [if_pos ⟨length.ge, signed⟩, first, mark, second]
    simp only [bind, Except.bind, if_neg within, length, ne_eq, not_true_eq_false, if_false]
  · exact other

theorem parseZone_zoneText (strict : (offset.tdiv 60).natAbs / 60 < 24) :
    parseZone (zoneText offset) = .ok (60 * offset.tdiv 60) := by
  rw [zoneText]
  split
  · next zero =>
    subst zero
    rfl
  · dsimp only
    generalize offset.tdiv 60 = minutes at *
    rw [padded_two (by omega), padded_two (by omega)]
    split
    · rw [cons_append, parseZone_signed (.inr rfl) strict (by omega), if_neg (by decide)]
      congr 1
      omega
    · rw [cons_append, parseZone_signed (.inl rfl) strict (by omega), if_pos rfl]
      congr 1
      omega

/-- A late year is a late day. -/
theorem days_of_year {days : Int} (late : 1950 ≤ (ofDays days).year) : 700000 ≤ days := by
  have whole := days_ofDays days
  obtain ⟨century, leapCycle, year, day⟩ := bounded_ofDays days
  simp only [ofDays, civil] at late
  generalize CycleDay.ofDays days = cycle at *
  split at late <;> omega

/-- The reader finds the second that the text of a time tells. -/
theorem parseRfc3339ToUtc_rfc3339Nano {t} (low : 1950 ≤ (ofDays t.localDays).year)
    (high : (ofDays t.localDays).year ≤ 9999)
    (strict : (t.offset.tdiv 60).natAbs / 60 < 24) :
    parseRfc3339ToUtc t.rfc3339Nano =
      let utc := UtcDateTime.ofSeconds (wireSeconds t)
      if utc.year < 1950 ∨ utc.year > 9999 then .error invalidTime else .ok utc := by
  have late := days_of_year low
  have clock : 0 ≤ t.secondOfDay ∧ t.secondOfDay < 86400 := by
    rw [secondOfDay]
    omega
  have nanos : 0 ≤ t.nanoOfSecond ∧ t.nanoOfSecond < 1000000000 := by
    rw [nanoOfSecond]
    omega
  have nonempty : fractionText t.nanoOfSecond ++ zoneText t.offset ≠ [] := by
    obtain ⟨c, rest, zone, -⟩ := zoneText_head t.offset
    simp [zone]
  have zoned : (do parseZone (← skipFraction
      (fractionText t.nanoOfSecond ++ zoneText t.offset))) = .ok (60 * t.offset.tdiv 60) := by
    rw [skipFraction_fractionText nanos.1 nanos.2]
    exact parseZone_zoneText strict
  have told : (t.localDays - epochDays) * 86400 + t.secondOfDay - 60 * t.offset.tdiv 60 =
      wireSeconds t - epochDays * 86400 := by
    simp only [wireSeconds, localDays, secondOfDay]
    omega
  rw [rfc3339Nano, parseRfc3339ToUtc_text low high clock nonempty (by omega) zoned, told,
    utcFromSeconds_eq]
  rw [wireSeconds]
  rw [localDays] at late
  omega

/-- The text of an instant in UTC in whole seconds is read in the same way. -/
theorem parseRfc3339ToUtc_rfc3339 {t : Time} (low : 1950 ≤ (ofDays t.utc.localDays).year)
    (high : (ofDays t.utc.localDays).year ≤ 9999) :
    parseRfc3339ToUtc t.utc.rfc3339 = .ok (.ofSeconds (t.nanos / 1000000000)) := by
  have late := days_of_year low
  have clock : 0 ≤ t.utc.secondOfDay ∧ t.utc.secondOfDay < 86400 := by
    rw [secondOfDay]
    omega
  have here : t.utc.localDays = t.nanos / 1000000000 / 86400 := by
    simp only [localDays, localNanos, utc]
    omega
  have told : (t.utc.localDays - epochDays) * 86400 + t.utc.secondOfDay - 0 =
      t.nanos / 1000000000 - epochDays * 86400 := by
    simp only [localDays, secondOfDay, localNanos, utc]
    omega
  have within : ¬ ((UtcDateTime.ofSeconds (t.nanos / 1000000000)).year < 1950 ∨
      (UtcDateTime.ofSeconds (t.nanos / 1000000000)).year > 9999) := by
    rw [UtcDateTime.ofSeconds, ← here]
    dsimp only
    omega
  rw [rfc3339, parseRfc3339ToUtc_text low high clock (by simp [zoneText, utc])
    (by omega) (show _ = Except.ok 0 from rfl), told, utcFromSeconds_eq (by omega)]
  exact if_neg within

/-- The core reads the wire text of a time. -/
def reads (t : Time) : Bool := (parseRfc3339ToUtc t.rfc3339Nano).isOk

/-- A text that starts with four digits and is read has a year from 1950 on. -/
theorem year_of_parse {text utc} {year : Nat} (small : year < 10000)
    (parsed : parseRfc3339ToUtc (two (year / 100) ++ two (year % 100) ++ text) = .ok utc) :
    1950 ≤ year := by
  have centuries : parseTwoDigits (two (year / 100) ++ two (year % 100) ++ text) 0 =
      .ok (year / 100 : Nat) := parseTwoDigits_eq rfl rfl (by omega)
  have years : parseTwoDigits (two (year / 100) ++ two (year % 100) ++ text) (0 + 2) =
      .ok (year % 100 : Nat) := parseTwoDigits_eq rfl rfl (by omega)
  have fourDigits : parseFourDigits (two (year / 100) ++ two (year % 100) ++ text) 0 =
      .ok (year : Nat) := by
    rw [parseFourDigits, centuries, years]
    change Except.ok _ = _
    congr 1
    omega
  rw [parseRfc3339ToUtc] at parsed
  split at parsed
  · cases parsed
  · simp only [Except.bind_eq_ok, fourDigits] at parsed
    obtain ⟨-, -, -, -, -, -, -, -, -, -, _, ⟨⟩, month, -, day, -, hour, -, minute, -, second, -, _,
      valid, -⟩ := parsed
    rw [validateLocalTime] at valid
    split at valid
    · cases valid
    · next within =>
      dsimp only at within
      omega

/-- What the core reads in a strict text is the second that it tells. -/
theorem parse_of_reads {t} (positive : 0 ≤ (ofDays t.localDays).year)
    (high : (ofDays t.localDays).year ≤ 9999)
    (strict : (t.offset.tdiv 60).natAbs / 60 < 24) (readable : reads t) :
    parseRfc3339ToUtc t.rfc3339Nano = .ok (.ofSeconds (wireSeconds t)) ∧
      700000 ≤ t.localDays ∧ 1950 ≤ (UtcDateTime.ofSeconds (wireSeconds t)).year ∧
      (UtcDateTime.ofSeconds (wireSeconds t)).year ≤ 9999 := by
  cases parsed : parseRfc3339ToUtc t.rfc3339Nano with
  | error message =>
    rw [reads, parsed] at readable
    cases readable
  | ok utc =>
    have low : 1950 ≤ (ofDays t.localDays).year := by
      have known := parsed
      rw [rfc3339Nano, dateText, yearText, if_neg (by omega),
        padded_four (by omega), append_assoc] at known
      have := year_of_parse (by omega) known
      omega
    rw [parseRfc3339ToUtc_rfc3339Nano low high strict] at parsed
    dsimp only at parsed
    split at parsed
    · cases parsed
    · next within =>
      cases parsed
      exact ⟨rfl, days_of_year low, by omega, by omega⟩

/-- A second of the calendar is read back from its text. -/
theorem parse_format {seconds : Int} (early : 0 ≤ seconds)
    (low : 1950 ≤ (UtcDateTime.ofSeconds seconds).year)
    (high : (UtcDateTime.ofSeconds seconds).year ≤ 9999) :
    parseRfc3339ToUtc (formatRfc3339Utc (.ofSeconds seconds)) = .ok (.ofSeconds seconds) := by
  have text : formatRfc3339Utc (.ofSeconds seconds) = dateText (seconds / 86400) ++
      'T' :: (clockText (seconds % 86400) ++ ['Z']) := by
    rw [UtcDateTime.ofSeconds] at low
    dsimp only at low
    rw [formatRfc3339Utc, UtcDateTime.ofSeconds, dateText, yearText, if_neg (by omega),
      monthDayText, clockText]
    simp
  have told : (seconds / 86400 - epochDays) * 86400 + seconds % 86400 - 0 =
      seconds - epochDays * 86400 := by omega
  rw [text, parseRfc3339ToUtc_text low high (by omega) (by simp) (by omega)
    (show _ = Except.ok 0 from rfl), told, utcFromSeconds_eq early]
  exact if_neg (by omega)

theorem seconds_ofSeconds {seconds : Int} (early : 0 ≤ seconds) :
    (UtcDateTime.ofSeconds seconds).seconds = seconds - epochDays * 86400 := by
  have days := daysFromCivil_ofDays (show 0 ≤ seconds / 86400 by omega)
  rw [UtcDateTime.seconds, UtcDateTime.ofSeconds]
  dsimp only
  rw [days]
  omega

end Reading

end AnoPki.Core
