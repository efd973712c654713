import AnoPki.Foundation.Text

/-! # Instants and their RFC 3339 texts

A time is a nanosecond count from the start of year 1 with the offset of the zone it is shown in.
Dates are taken apart in 400-year eras that begin on the first of March, so that a leap day is
the last day of its year. `rfc3339Nano_utc_injective` says that the text of a time in UTC
determines the instant to the nanosecond. -/
namespace Foundation

open List Text

/-- An instant with the zone it is shown in; the zero value is midnight of 1 January of year 1. -/
structure Time where
  /-- Nanoseconds since 0001-01-01T00:00:00Z. -/
  nanos : Int
  /-- Seconds east of UTC. -/
  offset : Int
deriving DecidableEq, Repr

/-- A day of the proleptic Gregorian calendar. -/
structure CivilDate where
  year : Int
  month : Int
  day : Int
deriving DecidableEq, Repr

/-- A day counted inside the calendar's 400-year cycle: era, century, four-year cycle and year
of it, and the day of a year that begins on the first of March. -/
structure CycleDay where
  era : Int
  century : Int
  leapCycle : Int
  year : Int
  day : Int

namespace CycleDay

/-- Split a day number counted from 0001-01-01. -/
def ofDays (days : Int) : CycleDay :=
  let shifted := days + 306
  let dayOfEra := shifted % 146097
  let century := min (dayOfEra / 36524) 3
  let dayOfCentury := dayOfEra - 36524 * century
  let leapCycle := dayOfCentury / 1461
  let dayOfCycle := dayOfCentury - 1461 * leapCycle
  let year := min (dayOfCycle / 365) 3
  ⟨shifted / 146097, century, leapCycle, year, dayOfCycle - 365 * year⟩

/-- The month counted from March. -/
def month (d : CycleDay) : Int := (5 * d.day + 2) / 153

/-- The calendar date, with January and February moved to the following year. -/
def civil (d : CycleDay) : CivilDate where
  year := 400 * d.era + 100 * d.century + 4 * d.leapCycle + d.year + (if d.month < 10 then 0 else 1)
  month := if d.month < 10 then d.month + 3 else d.month - 9
  day := d.day - (153 * d.month + 2) / 5 + 1

/-- The ranges of a split day number. -/
structure Bounded (d : CycleDay) : Prop where
  century : 0 ≤ d.century ∧ d.century ≤ 3
  leapCycle : 0 ≤ d.leapCycle ∧ d.leapCycle ≤ 24
  year : 0 ≤ d.year ∧ d.year ≤ 3
  day : 0 ≤ d.day ∧ d.day ≤ 365

theorem bounded_ofDays (days : Int) : (ofDays days).Bounded := by
  constructor <;> simp only [ofDays] <;> omega

theorem days_ofDays (days : Int) :
    146097 * (ofDays days).era + 36524 * (ofDays days).century + 1461 * (ofDays days).leapCycle +
      365 * (ofDays days).year + (ofDays days).day = days + 306 := by
  simp only [ofDays]
  omega

theorem month_bounds {d : CycleDay} (bounded : d.Bounded) : 0 ≤ d.month ∧ d.month ≤ 11 := by
  have := bounded.day
  simp only [month]
  omega

end CycleDay

namespace CivilDate

/-- The date of a day number counted from 0001-01-01. -/
def ofDays (days : Int) : CivilDate := (CycleDay.ofDays days).civil

theorem month_bounds (days : Int) : 1 ≤ (ofDays days).month ∧ (ofDays days).month ≤ 12 := by
  have := CycleDay.month_bounds (CycleDay.bounded_ofDays days)
  simp only [ofDays, CycleDay.civil]
  split <;> omega

theorem day_bounds (days : Int) : 1 ≤ (ofDays days).day ∧ (ofDays days).day ≤ 31 := by
  have bounds := (CycleDay.bounded_ofDays days).day
  simp only [ofDays, CycleDay.civil, CycleDay.month]
  omega

/-- The day number of a date. -/
def days (date : CivilDate) : Int :=
  let year := if date.month ≤ 2 then date.year - 1 else date.year
  let month := if date.month ≤ 2 then date.month + 9 else date.month - 3
  365 * year + year / 4 - year / 100 + year / 400 + (153 * month + 2) / 5 + date.day - 307

theorem days_ofDays (n : Int) : (ofDays n).days = n := by
  have whole := CycleDay.days_ofDays n
  have months := CycleDay.month_bounds (CycleDay.bounded_ofDays n)
  obtain ⟨century, cycle, year, -⟩ := CycleDay.bounded_ofDays n
  simp only [ofDays, CycleDay.civil, days]
  by_cases early : (CycleDay.ofDays n).month < 10
  · simp only [if_pos early]
    rw [if_neg (by omega), if_neg (by omega)]
    omega
  · simp only [if_neg early]
    rw [if_pos (by omega), if_pos (by omega)]
    omega

theorem ofDays_injective {left right : Int} (same : ofDays left = ofDays right) : left = right := by
  rw [← days_ofDays left, same, days_ofDays]

example : ofDays 0 = ⟨1, 1, 1⟩ := by decide
example : ofDays 730178 = ⟨2000, 2, 29⟩ := by decide

end CivilDate

namespace Time

/-- The zero value of the type. -/
def zero : Time := ⟨0, 0⟩

/-- The same instant shown in UTC. -/
def utc (t : Time) : Time := { t with offset := 0 }

/-- The instant `duration` nanoseconds later, in the same zone. -/
def add (t : Time) (duration : Int) : Time := { t with nanos := t.nanos + duration }

abbrev before (t u : Time) : Prop := t.nanos < u.nanos

abbrev after (t u : Time) : Prop := u.nanos < t.nanos

abbrev equal (t u : Time) : Prop := t.nanos = u.nanos

abbrev isZero (t : Time) : Prop := t.nanos = 0

/-- Nanoseconds on the clock of the time's own zone. -/
def localNanos (t : Time) : Int := t.nanos + t.offset * 1000000000

def localDays (t : Time) : Int := t.localNanos / 86400000000000

def secondOfDay (t : Time) : Int := t.localNanos / 1000000000 % 86400

def nanoOfSecond (t : Time) : Int := t.localNanos % 1000000000

/-- A year with at least four digits. -/
def yearText (year : Int) : Text :=
  if year < 0 then '-' :: padded 4 (-year).toNat else padded 4 year.toNat

def monthDayText (date : CivilDate) : Text :=
  '-' :: padded 2 date.month.toNat ++ '-' :: padded 2 date.day.toNat

def clockText (second : Int) : Text :=
  padded 2 (second / 3600).toNat ++ ':' :: padded 2 (second / 60 % 60).toNat ++
    ':' :: padded 2 (second % 60).toNat

/-- Digits without the zeros at the end. -/
def trimZeros : Text → Text
  | [] => []
  | c :: rest => if (c :: rest).all (· = '0') then [] else c :: trimZeros rest

/-- The fraction of a second, empty when it is zero. -/
def fractionText (nanos : Int) : Text :=
  if nanos = 0 then [] else '.' :: trimZeros (padded 9 nanos.toNat)

/-- The zone as a `Z` or as signed hours and minutes. -/
def zoneText (offset : Int) : Text :=
  if offset = 0 then ['Z'] else
    let minutes := offset.tdiv 60
    (if minutes < 0 then '-' else '+') ::
      padded 2 (minutes.natAbs / 60) ++ ':' :: padded 2 (minutes.natAbs % 60)

def dateText (days : Int) : Text :=
  yearText (CivilDate.ofDays days).year ++ monthDayText (CivilDate.ofDays days)

/-- RFC 3339 with the fraction of the second that is needed. -/
def rfc3339Nano (t : Time) : Text :=
  dateText t.localDays ++
    'T' :: (clockText t.secondOfDay ++ (fractionText t.nanoOfSecond ++ zoneText t.offset))

/-- RFC 3339 in whole seconds. -/
def rfc3339 (t : Time) : Text :=
  dateText t.localDays ++ 'T' :: (clockText t.secondOfDay ++ zoneText t.offset)

private theorem yearText_injective {y z : Int} (same : yearText y = yearText z) : y = z := by
  have noMinus : ∀ n : Nat, '-' ∉ padded 4 n := by
    intro n member
    have digit := isDigit_of_mem_padded member
    simp at digit
  unfold yearText at same
  split at same <;> split at same
  · have := padded_injective (cons.inj same).2
    omega
  · exact absurd (same ▸ mem_cons_self) (noMinus z.toNat)
  · exact absurd (same ▸ mem_cons_self) (noMinus y.toNat)
  · have := padded_injective same
    omega

private theorem length_padded_two {n : Int} (low : 0 ≤ n) (high : n < 100) :
    (padded 2 n.toNat).length = 2 :=
  length_padded (by decide) (by omega)

private theorem length_monthDayText (days : Int) :
    (monthDayText (CivilDate.ofDays days)).length = 6 := by
  have month := CivilDate.month_bounds days
  have day := CivilDate.day_bounds days
  simp only [monthDayText, cons_append, length_cons, length_append]
  rw [length_padded_two (by omega) (by omega), length_padded_two (by omega) (by omega)]

theorem dateText_injective {left right : Int} (same : dateText left = dateText right) :
    left = right := by
  have split := append_inj' same ((length_monthDayText left).trans (length_monthDayText right).symm)
  have leftMonth := CivilDate.month_bounds left
  have leftDay := CivilDate.day_bounds left
  have rightMonth := CivilDate.month_bounds right
  have rightDay := CivilDate.day_bounds right
  have monthDay := append_inj (cons.inj split.2).2 (by
    rw [length_padded_two (by omega) (by omega), length_padded_two (by omega) (by omega)])
  have month := padded_injective monthDay.1
  have day := padded_injective (cons.inj monthDay.2).2
  apply CivilDate.ofDays_injective
  rcases leftDate : CivilDate.ofDays left with ⟨ly, lm, ld⟩
  rcases rightDate : CivilDate.ofDays right with ⟨ry, rm, rd⟩
  simp only [leftDate, rightDate] at *
  have year := yearText_injective split.1
  simp only [CivilDate.mk.injEq]
  omega

private theorem length_clockText {second : Int} (low : 0 ≤ second) (high : second < 86400) :
    (clockText second).length = 8 := by
  simp only [clockText, length_append, length_cons]
  rw [length_padded_two (by omega) (by omega), length_padded_two (by omega) (by omega),
    length_padded_two (by omega) (by omega)]

private theorem clockText_injective {s t : Int} (slow : 0 ≤ s) (shigh : s < 86400) (tlow : 0 ≤ t)
    (thigh : t < 86400) (same : clockText s = clockText t) : s = t := by
  have front := append_inj same (by
    simp only [length_append, length_cons]
    rw [length_padded_two (by omega) (by omega), length_padded_two (by omega) (by omega),
      length_padded_two (by omega) (by omega), length_padded_two (by omega) (by omega)])
  have hours := append_inj front.1 (by
    rw [length_padded_two (by omega) (by omega), length_padded_two (by omega) (by omega)])
  have hour := padded_injective hours.1
  have minute := padded_injective (cons.inj hours.2).2
  have second := padded_injective (cons.inj front.2).2
  omega

private theorem trimZeros_pad (digits : Text) :
    trimZeros digits ++ replicate (digits.length - (trimZeros digits).length) '0' = digits := by
  induction digits with
  | nil => rfl
  | cons c rest ih =>
    simp only [trimZeros]
    split
    · next zeros =>
      have all : ∀ d ∈ c :: rest, d = '0' := by simpa using zeros
      simpa using (eq_replicate_of_mem all).symm
    · simpa using ih

private theorem fractionText_injective {m n : Int} (mlow : 0 ≤ m) (mhigh : m < 1000000000)
    (nlow : 0 ≤ n) (nhigh : n < 1000000000) (same : fractionText m = fractionText n) : m = n := by
  unfold fractionText at same
  split at same <;> split at same
  · omega
  · cases same
  · cases same
  · have trimmed := (cons.inj same).2
    have mlength : (padded 9 m.toNat).length = 9 := length_padded (by decide) (by omega)
    have nlength : (padded 9 n.toNat).length = 9 := length_padded (by decide) (by omega)
    have padded : padded 9 m.toNat = padded 9 n.toNat := by
      rw [← trimZeros_pad (padded 9 m.toNat), ← trimZeros_pad (padded 9 n.toNat),
        mlength, nlength, trimmed]
    have := padded_injective padded
    omega

private theorem mem_dateText {days : Int} {c} (member : c ∈ dateText days) :
    c = '-' ∨ c.isDigit := by
  simp only [dateText, yearText, monthDayText, mem_append] at member
  rcases member with year | (month | day)
  · split at year
    · rcases mem_cons.mp year with rfl | digit
      · exact .inl rfl
      · exact .inr (isDigit_of_mem_padded digit)
    · exact .inr (isDigit_of_mem_padded year)
  · rcases mem_cons.mp month with rfl | digit
    · exact .inl rfl
    · exact .inr (isDigit_of_mem_padded digit)
  · rcases mem_cons.mp day with rfl | digit
    · exact .inl rfl
    · exact .inr (isDigit_of_mem_padded digit)

private theorem mem_clockText {second : Int} {c} (member : c ∈ clockText second) :
    c = ':' ∨ c.isDigit := by
  simp only [clockText, mem_append, mem_cons] at member
  rcases member with (hour | rfl | minute) | rfl | second
  · exact .inr (isDigit_of_mem_padded hour)
  · exact .inl rfl
  · exact .inr (isDigit_of_mem_padded minute)
  · exact .inl rfl
  · exact .inr (isDigit_of_mem_padded second)

private theorem mem_fractionText {nanos : Int} {c} (member : c ∈ fractionText nanos) :
    c = '.' ∨ c.isDigit := by
  unfold fractionText at member
  split at member
  · cases member
  · rcases mem_cons.mp member with rfl | digit
    · exact .inl rfl
    · have whole := trimZeros_pad (padded 9 nanos.toNat)
      exact .inr (isDigit_of_mem_padded (whole ▸ mem_append_left _ digit))

private theorem mem_zoneText {offset : Int} {c} (member : c ∈ zoneText offset) :
    c ∈ ['Z', '-', '+', ':'] ∨ c.isDigit := by
  unfold zoneText at member
  split at member
  · exact .inl (by simp_all)
  · simp only [cons_append, mem_cons, mem_append] at member
    rcases member with sign | hour | colon | minute
    · refine .inl ?_
      split at sign <;> simp [sign]
    · exact .inr (isDigit_of_mem_padded hour)
    · exact .inl (by simp [colon])
    · exact .inr (isDigit_of_mem_padded minute)

/-- The characters of an RFC 3339 text. -/
theorem mem_rfc3339Nano {t : Time} {c} (member : c ∈ t.rfc3339Nano) :
    c ∈ ['-', 'T', ':', '.', 'Z', '+'] ∨ c.isDigit := by
  simp only [rfc3339Nano, mem_append, mem_cons] at member
  rcases member with date | rfl | clock | fraction | zone
  · exact (mem_dateText date).imp (fun hyphen => by simp [hyphen]) id
  · exact .inl (by simp)
  · exact (mem_clockText clock).imp (fun colon => by simp [colon]) id
  · exact (mem_fractionText fraction).imp (fun point => by simp [point]) id
  · refine (mem_zoneText zone).imp (fun mark => ?_) id
    simp only [mem_cons, not_mem_nil, or_false] at mark ⊢
    tauto

theorem mem_rfc3339 {t : Time} {c} (member : c ∈ t.rfc3339) :
    c ∈ ['-', 'T', ':', '.', 'Z', '+'] ∨ c.isDigit := by
  refine mem_rfc3339Nano (t := t) ?_
  simp only [rfc3339, rfc3339Nano, mem_append, mem_cons] at member ⊢
  tauto

theorem secondOfDay_bounds (t : Time) : 0 ≤ t.secondOfDay ∧ t.secondOfDay < 86400 := by
  simp only [secondOfDay]
  omega

theorem nanoOfSecond_bounds (t : Time) :
    0 ≤ t.nanoOfSecond ∧ t.nanoOfSecond < 1000000000 := by
  simp only [nanoOfSecond]
  omega

theorem zoneText_head (offset : Int) : ∃ c rest, zoneText offset = c :: rest ∧
    ¬ c.isDigit ∧ c ≠ '.' := by
  rw [zoneText]
  split
  · exact ⟨'Z', [], rfl, by decide, by decide⟩
  · dsimp only
    split
    · exact ⟨'-', _, rfl, by decide, by decide⟩
    · exact ⟨'+', _, rfl, by decide, by decide⟩

/-- The fraction in a text ends where its zone begins. -/
private theorem takeWhile_fraction (nanos offset : Int) :
    (fractionText nanos ++ zoneText offset).takeWhile (fun c => decide (c = '.' ∨ c.isDigit)) =
      fractionText nanos := by
  obtain ⟨c, rest, zone, digit, point⟩ := zoneText_head offset
  rw [takeWhile_append_of_pos fun c inside => decide_eq_true (mem_fractionText inside), zone,
    takeWhile_cons_of_neg (by simp [digit, point]), append_nil]

/-- The RFC 3339 text of a time determines what its clock shows, and its zone in minutes. -/
theorem rfc3339Nano_injective {t u : Time} (same : t.rfc3339Nano = u.rfc3339Nano) :
    t.localNanos = u.localNanos ∧ zoneText t.offset = zoneText u.offset := by
  have noT : ∀ days, 'T' ∉ dateText days := by
    intro days member
    rcases mem_dateText member with hyphen | digit
    · exact absurd hyphen (by decide)
    · exact absurd digit (by decide)
  have tSecond := secondOfDay_bounds t
  have uSecond := secondOfDay_bounds u
  have tNano := nanoOfSecond_bounds t
  have uNano := nanoOfSecond_bounds u
  obtain ⟨dates, clocks⟩ := split_unique (noT _) (noT _) same
  obtain ⟨clock, ends⟩ := append_inj clocks
    ((length_clockText tSecond.1 tSecond.2).trans (length_clockText uSecond.1 uSecond.2).symm)
  have fractions : fractionText t.nanoOfSecond = fractionText u.nanoOfSecond := by
    rw [← takeWhile_fraction _ t.offset, ends, takeWhile_fraction]
  have zones := ends
  rw [fractions] at zones
  refine ⟨?_, append_cancel_left zones⟩
  have days := dateText_injective dates
  have seconds := clockText_injective tSecond.1 tSecond.2 uSecond.1 uSecond.2 clock
  have nanos := fractionText_injective tNano.1 tNano.2 uNano.1 uNano.2 fractions
  simp only [localDays, secondOfDay, nanoOfSecond] at days seconds nanos
  omega

/-- The RFC 3339 text of a time in UTC determines the instant. -/
theorem rfc3339Nano_utc_injective {t u : Time} (same : t.utc.rfc3339Nano = u.utc.rfc3339Nano) :
    t.nanos = u.nanos := by
  simpa [localNanos, utc] using (rfc3339Nano_injective same).1

end Time
end Foundation
