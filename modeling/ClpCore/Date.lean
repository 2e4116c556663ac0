import Mathlib

/-!
# The civil calendar of the date library

`TimestampPattern` turns calendar fields into epoch milliseconds and back through the `date`
library (`date/date.h`). This file models the parts of it that the timestamp code calls:
`year_month_day::to_days`, `year_month_day::from_days`, `year_month_day::ok` with the month
lengths and leap-year rule behind it, and `weekday_from_days`.

## Main definitions

- `YearMonthDay` — a date as `date::year_month_day` holds it
- `YearMonthDay.toDays`, `YearMonthDay.fromDays` — the day-number conversions of `date.h`
- `YearMonthDay.ok`, `lastDay`, `isLeap` — date validity
- `weekdayFromDays` — the weekday of a day number

## Main results

- `fromDays_toDays` — `from_days` inverts `to_days` on valid dates
- `toDays_fromDays` — `to_days` inverts `from_days` on every day number
- `fromDays_isValid` — `from_days` only produces valid dates

## Design notes

`to_days` computes the era as `(y >= 0 ? y : y-399) / 400` with C++'s truncating division, and
`from_days` computes it as `(z >= 0 ? z : z - 146096) / 146097`; both are floor divisions, which
is what `Int` division by a positive literal is in Lean, so the model writes them as such. Within
an era the quantities are unsigned in `date.h` and `Nat` here. The proofs split a day of an era
into 100-year, 4-year and 1-year cycles so that every arithmetic step is a small `omega` goal.
-/

namespace ClpCore.Date

/-- A calendar date as `date::year_month_day` holds it. -/
structure YearMonthDay where
  year : Int
  month : Nat
  day : Nat
  deriving DecidableEq, Repr

/-- `date::year::is_leap`. -/
def isLeap (y : Int) : Bool := y % 4 == 0 && (y % 100 != 0 || y % 400 == 0)

/-- The month lengths of a common year, the table of `year_month_day_last::day`. -/
def commonMonthLengths : List Nat := [31, 28, 31, 30, 31, 30, 31, 31, 30, 31, 30, 31]

/-- `year_month_day_last::day`: the last day of month `m` of year `y`. -/
def lastDay (y : Int) (m : Nat) : Nat :=
  if (m ≠ 2 ∨ isLeap y = false) ∧ 1 ≤ m ∧ m ≤ 12 then commonMonthLengths.getD (m - 1) 0 else 29

/-- The month and day of `ymd` name a day of its year. -/
def YearMonthDay.IsValid (ymd : YearMonthDay) : Prop :=
  1 ≤ ymd.month ∧ ymd.month ≤ 12 ∧ 1 ≤ ymd.day ∧ ymd.day ≤ lastDay ymd.year ymd.month

instance : DecidablePred YearMonthDay.IsValid := fun _ => inferInstanceAs (Decidable (_ ∧ _))

/-- `year_month_day::ok`: `date::year::ok` (the year is a `short` other than its minimum) and
a valid month and day. -/
def YearMonthDay.ok (ymd : YearMonthDay) : Bool :=
  decide (-32767 ≤ ymd.year ∧ ymd.year ≤ 32767) && decide ymd.IsValid

/-- `year_month_day::to_days`: the number of days from 1970-01-01 to `ymd`. -/
def YearMonthDay.toDays (ymd : YearMonthDay) : Int :=
  let y := if ymd.month ≤ 2 then ymd.year - 1 else ymd.year
  let era := y / 400
  let yoe := (y - era * 400).toNat
  let doy := (153 * (if ymd.month > 2 then ymd.month - 3 else ymd.month + 9) + 2) / 5 + ymd.day - 1
  let doe := yoe * 365 + yoe / 4 - yoe / 100 + doy
  era * 146097 + doe - 719468

/-- `year_month_day::from_days`: the date `z` days after 1970-01-01. -/
def YearMonthDay.fromDays (z : Int) : YearMonthDay :=
  let z := z + 719468
  let era := z / 146097
  let doe := (z - era * 146097).toNat
  let yoe := (doe - doe / 1460 + doe / 36524 - doe / 146096) / 365
  let y := (yoe : Int) + era * 400
  let doy := doe - (365 * yoe + yoe / 4 - yoe / 100)
  let mp := (5 * doy + 2) / 153
  let d := doy - (153 * mp + 2) / 5 + 1
  let m := if mp < 10 then mp + 3 else mp - 9
  ⟨if m ≤ 2 then y + 1 else y, m, d⟩

/-- `weekday::weekday_from_days`: the weekday of day `z`, Sunday being 0. -/
def weekdayFromDays (z : Int) : Nat := ((z + 4) % 7).toNat

-- ════════════════════════════════════════════════════════════════════════
-- Arithmetic of one era
-- ════════════════════════════════════════════════════════════════════════

/-- The day of its era on which March-based year `yoe` starts. -/
def startOfYear (yoe : Nat) : Nat := 365 * yoe + yoe / 4 - yoe / 100

/-- March-based year `yoe` of an era ends with the February of year `yoe + 1`. -/
def yearLength (yoe : Nat) : Nat :=
  if (yoe + 1) % 4 = 0 ∧ ((yoe + 1) % 100 ≠ 0 ∨ yoe = 399) then 366 else 365

/-- The day of its year on which March-based month `mp` starts. -/
def startOfMonth (mp : Nat) : Nat := (153 * mp + 2) / 5

private theorem yearOfEra_decomposed (c q r doy : Nat) (hc : c ≤ 3) (hq : q ≤ 24) (hr : r ≤ 3)
    (hd : doy ≤ 365) (hleap : doy = 365 → r = 3 ∧ (q = 24 → c = 3)) :
    let doe := 36524 * c + 1461 * q + 365 * r + doy
    (doe - doe / 1460 + doe / 36524 - doe / 146096) / 365 = 100 * c + 4 * q + r := by
  intro doe
  by_cases hmax : c = 3 ∧ q = 24 ∧ r = 3 ∧ doy = 365
  · obtain ⟨rfl, rfl, rfl, rfl⟩ := hmax
    decide
  · have hg : doe / 146096 = 0 := by omega
    have hf : doe / 36524 = c := by omega
    have he : doe / 1460 = 25 * c + q + (24 * c + q + 365 * r + doy) / 1460 := by omega
    have hδ : (24 * c + q + 365 * r + doy) / 1460 ≤ 1 ∧
        (24 * c + q + 365 * r + doy) / 1460 ≤ doy ∧
        doy - (24 * c + q + 365 * r + doy) / 1460 ≤ 364 := by omega
    rw [hg, hf, he]
    generalize (24 * c + q + 365 * r + doy) / 1460 = δ at hδ
    have hsplit : doe - (25 * c + q + δ) + c - 0 = (doy - δ) + 365 * (100 * c + 4 * q + r) := by
      omega
    rw [hsplit, Nat.add_mul_div_left _ _ (by norm_num), Nat.div_eq_of_lt (by omega), zero_add]

/-- The year computation of `fromDays` inverts `startOfYear` on every day of the year. -/
theorem yearOfEra_startOfYear (yoe doy : Nat) (hyoe : yoe ≤ 399) (hdoy : doy < yearLength yoe) :
    let doe := startOfYear yoe + doy
    (doe - doe / 1460 + doe / 36524 - doe / 146096) / 365 = yoe := by
  have hdoe : startOfYear yoe + doy =
      36524 * (yoe / 100) + 1461 * (yoe % 100 / 4) + 365 * (yoe % 4) + doy := by
    unfold startOfYear; omega
  have h := yearOfEra_decomposed (yoe / 100) (yoe % 100 / 4) (yoe % 4) doy (by omega) (by omega)
    (by omega) (by unfold yearLength at hdoy; split_ifs at hdoy <;> omega)
    (by unfold yearLength at hdoy; split_ifs at hdoy <;> omega)
  simp only [hdoe] at h ⊢
  rw [h]; omega

theorem startOfYear_decomposed (c q r : Nat) (hq : q ≤ 24) (hr : r ≤ 3) :
    startOfYear (100 * c + 4 * q + r) = 36524 * c + 1461 * q + 365 * r := by
  unfold startOfYear; omega

/-- Every day of an era lies in exactly one of its years. -/
theorem exists_startOfYear (doe : Nat) (h : doe ≤ 146096) :
    ∃ yoe doy, yoe ≤ 399 ∧ doy < yearLength yoe ∧ doe = startOfYear yoe + doy := by
  obtain ⟨c, hc, hc1, hc2⟩ : ∃ c, c ≤ 3 ∧ 36524 * c ≤ doe ∧ (doe < 36524 * (c + 1) ∨ c = 3) :=
    ⟨min (doe / 36524) 3, by omega, by omega, by omega⟩
  obtain ⟨q, r, hq, hr, hqr1, hqr2, hqr3⟩ : ∃ q r, q ≤ 24 ∧ r ≤ 3 ∧
      36524 * c + 1461 * q + 365 * r ≤ doe ∧ doe < 36524 * c + 1461 * (q + 1) ∧
      (doe < 36524 * c + 1461 * q + 365 * (r + 1) ∨ r = 3) := by
    refine ⟨(doe - 36524 * c) / 1461, min ((doe - 36524 * c) % 1461 / 365) 3, ?_, by omega, ?_, ?_,
      ?_⟩ <;> omega
  refine ⟨100 * c + 4 * q + r, doe - (36524 * c + 1461 * q + 365 * r), by omega, ?_, ?_⟩
  · unfold yearLength; split_ifs <;> omega
  · rw [startOfYear_decomposed c q r hq hr]; omega

-- ════════════════════════════════════════════════════════════════════════
-- Months of a March-based year
-- ════════════════════════════════════════════════════════════════════════

/-- The March-based month of calendar month `m`, as `to_days` computes it. -/
def marchMonth (m : Nat) : Nat := if m > 2 then m - 3 else m + 9

/-- The March-based month in which day `doy` of the year falls, as `from_days` computes it. -/
def monthOfYear (doy : Nat) : Nat := (5 * doy + 2) / 153

/-- The calendar month of March-based month `mp`, as `from_days` computes it. -/
def civilMonth (mp : Nat) : Nat := if mp < 10 then mp + 3 else mp - 9

theorem monthOfYear_startOfMonth (mp d : Nat) (hmp : mp ≤ 11) (hd1 : 1 ≤ d)
    (hd2 : startOfMonth mp + d ≤ startOfMonth (mp + 1)) :
    (5 * (startOfMonth mp + d - 1) + 2) / 153 = mp := by
  unfold startOfMonth at *; omega

theorem startOfMonth_monthOfYear (doy : Nat) (h : doy ≤ 365) :
    monthOfYear doy ≤ 11 ∧ startOfMonth (monthOfYear doy) ≤ doy ∧
      doy < startOfMonth (monthOfYear doy + 1) := by
  unfold startOfMonth monthOfYear; omega

/-- Every month but February lasts until the next March-based month starts. -/
theorem lastDay_eq_gap (y : Int) (m : Nat) (h1 : 1 ≤ m) (h2 : m ≤ 12) (hm : m ≠ 2) :
    lastDay y m = startOfMonth (marchMonth m + 1) - startOfMonth (marchMonth m) := by
  rw [lastDay, if_pos ⟨.inl hm, h1, h2⟩]
  interval_cases m <;> first | rfl | exact absurd rfl hm

theorem lastDay_february (y : Int) : lastDay y 2 = if isLeap y then 29 else 28 := by
  cases h : isLeap y <;> simp [lastDay, h, commonMonthLengths]

/-- The calendar year after March-based year `yoe` of an era is a leap year exactly when that
March-based year has 366 days. -/
theorem isLeap_iff_yearLength (era : Int) (yoe : Nat) (h : yoe ≤ 399) :
    isLeap (yoe + era * 400 + 1) = true ↔ yearLength yoe = 366 := by
  unfold isLeap yearLength
  split_ifs with hl <;> simp only [Bool.and_eq_true, beq_iff_eq, Bool.or_eq_true, bne_iff_ne,
    ne_eq, iff_true, iff_false, not_and, not_or] <;> omega

-- ════════════════════════════════════════════════════════════════════════
-- `from_days` and `to_days` are inverse
-- ════════════════════════════════════════════════════════════════════════

/-- `fromDays` on a day given by its era, March-based year of era and day of year. -/
theorem fromDays_decomposed (era : Int) (yoe doy : Nat) (hyoe : yoe ≤ 399)
    (hdoy : doy < yearLength yoe) :
    YearMonthDay.fromDays (era * 146097 + ((startOfYear yoe + doy : Nat) : Int) - 719468) =
      ⟨if civilMonth (monthOfYear doy) ≤ 2 then yoe + era * 400 + 1 else yoe + era * 400,
       civilMonth (monthOfYear doy), doy - startOfMonth (monthOfYear doy) + 1⟩ := by
  have hlen : yearLength yoe ≤ 366 := by unfold yearLength; split_ifs <;> omega
  have hdoe : startOfYear yoe + doy ≤ 146096 := by
    have := startOfYear_decomposed (yoe / 100) (yoe % 100 / 4) (yoe % 4) (by omega) (by omega)
    have hy : 100 * (yoe / 100) + 4 * (yoe % 100 / 4) + yoe % 4 = yoe := by omega
    rw [hy] at this
    unfold yearLength at hdoy; split_ifs at hdoy <;> omega
  have hera : (era * 146097 + ((startOfYear yoe + doy : Nat) : Int) - 719468 + 719468) / 146097
      = era := by omega
  have hdoe' : (era * 146097 + ((startOfYear yoe + doy : Nat) : Int) - 719468 + 719468 -
      era * 146097).toNat = startOfYear yoe + doy := by omega
  have hyear := yearOfEra_startOfYear yoe doy hyoe hdoy
  simp only [YearMonthDay.fromDays, hera, hdoe', hyear]
  have hdoy' : startOfYear yoe + doy - (365 * yoe + yoe / 4 - yoe / 100) = doy := by
    unfold startOfYear; omega
  rw [hdoy']; rfl

/-- `toDays` through its era, March-based year of era and day of year. -/
theorem toDays_decomposed (y : Int) (m d : Nat) :
    let y' := if m ≤ 2 then y - 1 else y
    YearMonthDay.toDays ⟨y, m, d⟩ = y' / 400 * 146097 +
      ((startOfYear (y' - y' / 400 * 400).toNat + (startOfMonth (marchMonth m) + d - 1) : Nat) : Int)
        - 719468 := by
  intro y'
  simp only [YearMonthDay.toDays, startOfYear, startOfMonth, marchMonth, Nat.mul_comm 365]

theorem civilMonth_marchMonth (m : Nat) (h1 : 1 ≤ m) (h2 : m ≤ 12) :
    civilMonth (marchMonth m) = m := by
  unfold civilMonth marchMonth; split_ifs <;> omega

theorem marchMonth_civilMonth (mp : Nat) (h : mp ≤ 11) : marchMonth (civilMonth mp) = mp := by
  unfold civilMonth marchMonth; split_ifs <;> omega

/-- **Dates round-trip through day numbers**: `from_days` inverts `to_days` on every valid
date. -/
theorem fromDays_toDays (ymd : YearMonthDay) (h : ymd.IsValid) :
    YearMonthDay.fromDays ymd.toDays = ymd := by
  obtain ⟨y, m, d⟩ := ymd
  obtain ⟨hm1, hm2, hd1, hd2⟩ := h
  simp only at hm1 hm2 hd1 hd2
  rw [toDays_decomposed]
  generalize hy' : (if m ≤ 2 then y - 1 else y) = y'
  have hyoe : ((y' - y' / 400 * 400).toNat : Int) = y' - y' / 400 * 400 := by omega
  generalize (y' - y' / 400 * 400).toNat = yoe at hyoe
  have hyoe4 : yoe ≤ 399 := by omega
  have hdoy : startOfMonth (marchMonth m) + d - 1 < yearLength yoe ∧
      monthOfYear (startOfMonth (marchMonth m) + d - 1) = marchMonth m := by
    by_cases hm : m = 2
    · subst hm
      have hleap := isLeap_iff_yearLength (y' / 400) yoe hyoe4
      have hy : (yoe : Int) + y' / 400 * 400 + 1 = y := by simp at hy'; omega
      rw [hy] at hleap
      rw [lastDay_february] at hd2
      have hd29 : d ≤ 29 ∧ (d = 29 → yearLength yoe = 366) := by
        cases h : isLeap y <;> simp only [h, ite_true, ite_false, Bool.false_eq_true, false_iff,
          true_iff] at hd2 hleap <;> omega
      have hlen : 365 ≤ yearLength yoe := by unfold yearLength; split_ifs <;> omega
      have hs : marchMonth 2 = 11 ∧ startOfMonth 11 = 337 ∧ startOfMonth (11 + 1) = 367 :=
        ⟨rfl, rfl, rfl⟩
      rw [hs.1]
      exact ⟨by omega, monthOfYear_startOfMonth _ _ (by decide) hd1 (by omega)⟩
    · have hgap := lastDay_eq_gap y m hm1 hm2 hm
      have hmp : marchMonth m ≤ 10 := by unfold marchMonth; split_ifs <;> omega
      have hlen : 365 ≤ yearLength yoe := by unfold yearLength; split_ifs <;> omega
      have h11 : startOfMonth (marchMonth m + 1) ≤ 337 := by unfold startOfMonth; omega
      exact ⟨by omega, monthOfYear_startOfMonth _ _ (by omega) hd1 (by omega)⟩
  rw [fromDays_decomposed _ _ _ hyoe4 hdoy.1, hdoy.2, civilMonth_marchMonth m hm1 hm2]
  congr 1
  · split_ifs at hy' ⊢ <;> omega
  · omega


/-- Every day number is a day of some March-based year of some era. -/
theorem exists_decomposed (z : Int) : ∃ era yoe doy, yoe ≤ 399 ∧ doy < yearLength yoe ∧
    z = era * 146097 + ((startOfYear yoe + doy : Nat) : Int) - 719468 := by
  obtain ⟨yoe, doy, h1, h2, h3⟩ :=
    exists_startOfYear ((z + 719468) - (z + 719468) / 146097 * 146097).toNat (by omega)
  exact ⟨(z + 719468) / 146097, yoe, doy, h1, h2, by rw [← h3]; omega⟩

/-- `from_days` always yields a valid month and day. -/
theorem fromDays_isValid (z : Int) : (YearMonthDay.fromDays z).IsValid := by
  obtain ⟨era, yoe, doy, hyoe, hdoy, rfl⟩ := exists_decomposed z
  rw [fromDays_decomposed era yoe doy hyoe hdoy]
  have hlen : 365 ≤ yearLength yoe ∧ yearLength yoe ≤ 366 := by
    unfold yearLength; split_ifs <;> omega
  obtain ⟨hmp, hs1, hs2⟩ := startOfMonth_monthOfYear doy (by omega)
  have hm1 : 1 ≤ civilMonth (monthOfYear doy) := by unfold civilMonth; split_ifs <;> omega
  have hm2 : civilMonth (monthOfYear doy) ≤ 12 := by unfold civilMonth; split_ifs <;> omega
  refine ⟨hm1, hm2, Nat.le_add_left 1 _, ?_⟩
  simp only
  by_cases h11 : monthOfYear doy = 11
  · have hleap := isLeap_iff_yearLength era yoe hyoe
    have hs : civilMonth 11 = 2 ∧ startOfMonth 11 = 337 := ⟨rfl, rfl⟩
    rw [h11, hs.1, lastDay_february, if_pos (le_refl 2)]
    simp only [h11, hs.2] at hs1 ⊢
    cases h : isLeap (yoe + era * 400 + 1) <;>
      simp only [h, ite_true, ite_false, Bool.false_eq_true, false_iff, true_iff] at hleap ⊢ <;> omega
  · rw [lastDay_eq_gap _ _ hm1 hm2 (by unfold civilMonth; split_ifs <;> omega),
      marchMonth_civilMonth _ hmp]
    omega

/-- **Day numbers round-trip through dates**: `to_days` inverts `from_days` on every day. -/
theorem toDays_fromDays (z : Int) : (YearMonthDay.fromDays z).toDays = z := by
  obtain ⟨era, yoe, doy, hyoe, hdoy, rfl⟩ := exists_decomposed z
  rw [fromDays_decomposed era yoe doy hyoe hdoy, toDays_decomposed]
  have hlen : yearLength yoe ≤ 366 := by unfold yearLength; split_ifs <;> omega
  obtain ⟨hmp, hs1, -⟩ := startOfMonth_monthOfYear doy (by omega)
  have hy' : (if civilMonth (monthOfYear doy) ≤ 2 then
      (if civilMonth (monthOfYear doy) ≤ 2 then (yoe : Int) + era * 400 + 1 else yoe + era * 400) - 1
      else if civilMonth (monthOfYear doy) ≤ 2 then (yoe : Int) + era * 400 + 1
      else yoe + era * 400) = yoe + era * 400 := by
    split_ifs <;> omega
  simp only [hy', marchMonth_civilMonth _ hmp]
  have hera : ((yoe : Int) + era * 400) / 400 = era := by omega
  have hyoe' : ((yoe : Int) + era * 400 - era * 400).toNat = yoe := by omega
  rw [hera, hyoe', show startOfMonth (monthOfYear doy) + (doy - startOfMonth (monthOfYear doy) + 1)
    - 1 = doy by omega]

/-- The Unix epoch is day zero. -/
theorem toDays_unixEpoch : YearMonthDay.toDays ⟨1970, 1, 1⟩ = 0 := by decide

end ClpCore.Date
