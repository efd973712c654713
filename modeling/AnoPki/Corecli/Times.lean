import AnoPki.Core.Times
import AnoPki.Corecli.Runner

/-! # The times of certificates and revocation lists as they are encoded

The issuing code of the core writes a time as RFC 5280 wants it, with a short year before 2050. The
code for revocation lists always writes a long one. -/
namespace AnoPki.Corecli

open Foundation AnoPki.Core CivilDate

/-- The year of an instant. -/
def utcYear (t : Time) : Int := (ofDays t.utc.localDays).year

/-- The encoding of RFC 5280: `UTCTime` for years before 2050, and `GeneralizedTime` from then
on. -/
def rfc5280Time (t : Time) : Text :=
  let date := ofDays t.utc.localDays
  let second := t.utc.secondOfDay
  (if date.year < 2050 then Text.padded 2 (date.year.toNat % 100) else
    Text.padded 4 date.year.toNat) ++ Text.padded 2 date.month.toNat ++
      Text.padded 2 date.day.toNat ++
    Text.padded 2 (second / 3600).toNat ++ Text.padded 2 (second / 60 % 60).toNat ++
    Text.padded 2 (second % 60).toNat ++ ['Z']

/-- The digits of an instant in RFC 5280's range. -/
structure Digits (t : Time) (year month day hour minute second : Nat) : Prop where
  date : ofDays t.utc.localDays = ⟨year, month, day⟩
  hours : t.utc.secondOfDay / 3600 = hour
  minutes : t.utc.secondOfDay / 60 % 60 = minute
  seconds : t.utc.secondOfDay % 60 = second
  years : 1950 ≤ year ∧ year ≤ 9999
  short : month < 100 ∧ day < 100 ∧ hour < 100 ∧ minute < 100 ∧ second < 100

theorem exists_digits {t} (low : 1950 ≤ utcYear t) (high : utcYear t ≤ 9999) :
    ∃ year month day hour minute second, Digits t year month day hour minute second := by
  have months := month_bounds t.utc.localDays
  have days := day_bounds t.utc.localDays
  have clock : 0 ≤ t.utc.secondOfDay ∧ t.utc.secondOfDay < 86400 := by
    rw [Time.secondOfDay]
    omega
  rw [utcYear] at low high
  cases date : ofDays t.utc.localDays with
  | mk year month day =>
    rw [date] at low high months days
    dsimp only at low high months days
    refine ⟨year.toNat, month.toNat, day.toNat, (t.utc.secondOfDay / 3600).toNat,
      (t.utc.secondOfDay / 60 % 60).toNat, (t.utc.secondOfDay % 60).toNat, ?_, by omega, by omega,
      by omega, by omega, by omega⟩
    rw [date, mk.injEq]
    omega

section Encodings

variable {t : Time} {year month day hour minute second : Nat}

section

variable (digits : Digits t year month day hour minute second)

include digits

theorem coreTime_digits :
    coreTime t = two (year / 100) ++ two (year % 100) ++ '-' :: two month ++ '-' :: two day ++
      'T' :: (two hour ++ ':' :: two minute ++ ':' :: two second ++ ['Z']) := by
  obtain ⟨date, hours, minutes, seconds, years, short⟩ := digits
  rw [coreTime, Time.rfc3339, Time.dateText, Time.monthDayText, Time.clockText,
    date, hours, minutes, seconds, Time.yearText, if_neg (by dsimp only; omega)]
  simp only [Int.toNat_natCast]
  rw [padded_four (by omega), padded_two short.1, padded_two short.2.1, padded_two short.2.2.1,
    padded_two short.2.2.2.1, padded_two short.2.2.2.2, Time.zoneText,
    if_pos (show t.utc.offset = 0 from rfl)]
  simp

theorem rfc5280Time_digits :
    rfc5280Time t = (if year < 2050 then [] else two (year / 100)) ++
      two (year % 100) ++ two month ++ two day ++ two hour ++ two minute ++
        two second ++ ['Z'] := by
  obtain ⟨date, hours, minutes, seconds, years, short⟩ := digits
  simp only [rfc5280Time, date, hours, minutes, seconds, Int.toNat_natCast]
  rw [padded_four (by omega), padded_two (by omega), padded_two short.1, padded_two short.2.1,
    padded_two short.2.2.1, padded_two short.2.2.2.1, padded_two short.2.2.2.2]
  by_cases early : year < 2050
  · rw [if_pos (by omega), if_pos early, List.nil_append]
  · rw [if_neg (by omega), if_neg early]

/-- The code for revocation lists writes the year with four digits. -/
theorem crlTime_digits :
    Crl.asn1TimeFromRfc3339 (coreTime t) = .ok (two (year / 100) ++ two (year % 100) ++ two month ++
      two day ++ two hour ++ two minute ++ two second ++ ['Z']) := by
  rw [coreTime_digits digits]
  rfl

end

/-- The issuing code writes the encoding of RFC 5280. -/
theorem issueTime_eq (low : 1950 ≤ utcYear t) (high : utcYear t ≤ 9999) :
    Issue.asn1TimeFromRfc3339 (coreTime t) = .ok (rfc5280Time t) := by
  obtain ⟨year, month, day, hour, minute, second, digits⟩ := exists_digits low high
  have read := parseRfc3339ToUtc_rfc3339 low high
  rw [Issue.asn1TimeFromRfc3339, coreTime, read, rfc5280Time_digits digits]
  obtain ⟨date, hours, minutes, seconds, years, short⟩ := digits
  have same : UtcDateTime.ofSeconds (t.nanos / 1000000000) =
      ⟨year, month, day, hour, minute, second⟩ := by
    have here : t.nanos / 1000000000 / 86400 = t.utc.localDays := by
      simp only [Time.localDays, Time.localNanos, Time.utc]
      omega
    have clock : t.nanos / 1000000000 % 86400 = t.utc.secondOfDay := by
      simp only [Time.secondOfDay, Time.localNanos, Time.utc]
      omega
    rw [UtcDateTime.ofSeconds, here, date, clock, hours, minutes, seconds]
  rw [same]
  change Except.ok (asn1TimeFromUtc _) = _
  rw [asn1TimeFromUtc, formatRfc3339Utc]
  simp only [Int.toNat_natCast]
  rw [padded_four (by omega), padded_two short.1, padded_two short.2.1, padded_two short.2.2.1,
    padded_two short.2.2.2.1, padded_two short.2.2.2.2]
  by_cases early : year < 2050
  · rw [if_pos (by omega), if_pos early]
    rfl
  · rw [if_neg (by omega), if_neg early]
    rfl

/-- For an instant between 1950 and 9999, the time of a revocation list is encoded as RFC 5280 wants
it, and as the issuing code encodes the instant, if and only if it is not before 2050. -/
theorem crlTime_conforms_iff (low : 1950 ≤ utcYear t) (high : utcYear t ≤ 9999) :
    (Crl.asn1TimeFromRfc3339 (coreTime t) = .ok (rfc5280Time t) ∧
      Crl.asn1TimeFromRfc3339 (coreTime t) = Issue.asn1TimeFromRfc3339 (coreTime t)) ↔
      2050 ≤ utcYear t := by
  obtain ⟨year, month, day, hour, minute, second, digits⟩ := exists_digits low high
  have years : utcYear t = year := by rw [utcYear, digits.date]
  rw [issueTime_eq low high, and_self, crlTime_digits digits, rfc5280Time_digits digits, years]
  by_cases early : year < 2050
  · rw [if_pos early]
    refine iff_of_false ?_ (by omega)
    intro same
    have lengths := congrArg List.length (Except.ok.inj same)
    simp [two] at lengths
  · rw [if_neg early]
    exact iff_of_true rfl (by omega)

/-- The first second of 2050. -/
def longYear : Time := ⟨64660204800000000000, 0⟩

/-- A time from 2050 on. -/
theorem longYear_conforms :
    Crl.asn1TimeFromRfc3339 (coreTime longYear) = .ok (rfc5280Time longYear) ∧
    Crl.asn1TimeFromRfc3339 (coreTime longYear) = Issue.asn1TimeFromRfc3339 (coreTime longYear) :=
  (@crlTime_conforms_iff longYear (by decide) (by decide)).mpr (by decide)

/-- The first second of 2026. -/
def shortYear : Time := ⟨63902822400000000000, 0⟩

/-- It has four digits of its year in a revocation list, and two in a certificate. -/
theorem shortYear_deviates :
    Crl.asn1TimeFromRfc3339 (coreTime shortYear) = .ok "20260101000000Z" ∧
      Issue.asn1TimeFromRfc3339 (coreTime shortYear) = .ok "260101000000Z" ∧
      rfc5280Time shortYear = "260101000000Z" := by
  decide +kernel

end Encodings

end AnoPki.Corecli
