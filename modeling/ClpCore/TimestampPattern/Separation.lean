import ClpCore.TimestampPattern.RoundTrip
import ClpCore.TimestampPattern.LongestMatch

/-!
# The separation the formatter computes

`insert_formatted_timestamp` separates a timestamp with the `date` library, whose types are
narrower than the values: `floor<days>` counts days in an `int`, `year_month_day` keeps its year
in a `short`, and the code narrows the hours of `make_time` to an `int`.
`TimestampFields.separate` wraps each value as the C++ narrowing does. This file relates it to
the exact UTC separation `TimestampFields.ofTimestamp`: the two agree for every UTC year a
`short` holds; beyond, the year is another one, and the hour is the UTC hour or a negative one.
Every timestamp `parse_timestamp` returns lies in those years.

## Main definitions

- `TimestampFields.Separated` — the ranges of the fields the code separates a timestamp into
- `ParsedFields.Bounded` — the ranges of the fields `parse_timestamp` reads

## Main results

- `separate_eq_ofTimestamp` — the code separates exactly in the years `date::year` holds
- `separate_hour` — the hour the code computes, for every timestamp
- `separate_separated` — the fields the code computes are in their ranges
- `separate_inverse` — separating and composing timestamps are inverse in those years
- `parseTimestamp_year` — the timestamps `parse_timestamp` returns lie in those years
-/

namespace ClpCore

open Date

-- ════════════════════════════════════════════════════════════════════════
-- Narrowed day counts and hours
-- ════════════════════════════════════════════════════════════════════════

theorem tdiv_eq_ite (a : Int) (b : Nat) : a.tdiv b = if 0 ≤ a then a / b else -((-a) / b) := by
  split
  · exact Int.tdiv_eq_ediv ‹_› (Int.ofNat_nonneg b)
  · rw [← Int.neg_neg a, Int.neg_tdiv, Int.neg_neg,
      Int.tdiv_eq_ediv (by omega) (Int.ofNat_nonneg b)]

/-- `floor<days>` is the floor for a day count that an `int` holds. -/
theorem floorDays_of_lt {timePoint : Int} (h1 : -2 ^ 31 ≤ timePoint / msPerDay)
    (h2 : timePoint / msPerDay < 2 ^ 31) : floorDays timePoint = timePoint / msPerDay := by
  simp only [floorDays, msPerDay] at *
  rw [show (86400000 : Int) = ((86400000 : Nat) : Int) from rfl, tdiv_eq_ite, Int.bmod_def]
  split_ifs <;> omega

/-- The hour `make_time` gives for the day of `floor<days>`, narrowed to an `int`: the hour of
the floor when the day count does not wrap and when the time point is not negative, and a
negative hour no later than the floor's otherwise. -/
theorem floorDays_hour (timePoint : Int) :
    let hour := (((timePoint - floorDays timePoint * msPerDay).natAbs / 3600000 : Nat) :
      Int).bmod (2 ^ 32)
    let utcHour := (((timePoint - timePoint / msPerDay * msPerDay).toNat / 3600000 : Nat) : Int)
    hour = utcHour ∨ -24 ≤ hour ∧ hour ≤ -utcHour := by
  simp only [floorDays, msPerDay]
  rw [show (86400000 : Int) = ((86400000 : Nat) : Int) from rfl, tdiv_eq_ite]
  simp only [Int.bmod_def]
  split_ifs <;> omega

/-- The year of a day number lies in the 400-year era of the day. -/
theorem fromDays_year_bounds (z : Int) :
    400 * ((z + 719468) / 146097) ≤ (YearMonthDay.fromDays z).year ∧
      (YearMonthDay.fromDays z).year ≤ 400 * ((z + 719468) / 146097) + 400 := by
  simp only [YearMonthDay.fromDays]
  split_ifs <;> omega

-- ════════════════════════════════════════════════════════════════════════
-- The separation in the years of a `short`
-- ════════════════════════════════════════════════════════════════════════

/-- **The code separates exactly** every timestamp whose UTC year a `date::year` holds: its day
count fits an `int`, and no field wraps. -/
theorem separate_eq_ofTimestamp {t : Int} (h1 : -32768 ≤ (TimestampFields.ofTimestamp t).year)
    (h2 : (TimestampFields.ofTimestamp t).year ≤ 32767) :
    TimestampFields.separate t = TimestampFields.ofTimestamp t := by
  simp only [TimestampFields.separate, TimestampFields.ofTimestamp] at h1 h2 ⊢
  generalize YearMonthDay.toDays ⟨1970, 1, 1⟩ * msPerDay + t = P at h1 h2 ⊢
  have hb := fromDays_year_bounds (P / msPerDay)
  rw [floorDays_of_lt (by omega) (by omega)]
  simp only [TimestampFields.mk.injEq, msPerDay, Int.bmod_def, true_and] at h1 h2 ⊢
  exact ⟨by split_ifs <;> omega, by split_ifs <;> omega, by omega, by omega, by omega⟩

/-- The separation at UTC year 67551, which a `short` does not hold: the code writes 2015. -/
example : (TimestampFields.ofTimestamp 2069536435200000).year = 67551 ∧
    TimestampFields.separate 2069536435200000 = { TimestampFields.ofTimestamp 2069536435200000 with
      year := 2015 } := by
  decide

/-- **The hour the code computes**, for every timestamp: the UTC hour, or, where the day count
wraps for a timestamp before 1970, a negative hour no later than the UTC hour negated. -/
theorem separate_hour (t : Int) :
    (TimestampFields.separate t).hour = (TimestampFields.ofTimestamp t).hour ∨
      -24 ≤ (TimestampFields.separate t).hour ∧
        (TimestampFields.separate t).hour ≤ -(TimestampFields.ofTimestamp t).hour := by
  simp only [TimestampFields.separate, TimestampFields.ofTimestamp]
  exact floorDays_hour _

/-- The ranges of the fields the code separates a timestamp into: those of `InRange`, but for
an hour that may be negative. -/
structure TimestampFields.Separated (F : TimestampFields) : Prop where
  dayOfWeekIx_lt : F.dayOfWeekIx < 7
  month_pos : 1 ≤ F.month
  month_le : F.month ≤ 12
  date_pos : 1 ≤ F.date
  date_le : F.date ≤ 31
  hour_ge : -24 ≤ F.hour
  hour_lt : F.hour < 24
  minute_lt : F.minute < 60
  second_lt : F.second < 60
  millisecond_lt : F.millisecond < 1000

theorem TimestampFields.Separated.inRange {F : TimestampFields} (hF : F.Separated)
    (h : 0 ≤ F.hour) : F.InRange :=
  ⟨hF.1, hF.2, hF.3, hF.4, hF.5, h, hF.7, hF.8, hF.9, hF.10⟩

/-- The fields the code separates every timestamp into lie in their ranges. -/
theorem separate_separated (t : Int) : (TimestampFields.separate t).Separated := by
  have hF := ofTimestamp_inRange t
  have hh := separate_hour t
  obtain ⟨h1, h2, h3, h4⟩ := fromDays_isValid
    (floorDays (YearMonthDay.toDays ⟨1970, 1, 1⟩ * msPerDay + t))
  have h5 := lastDay_le (YearMonthDay.fromDays
    (floorDays (YearMonthDay.toDays ⟨1970, 1, 1⟩ * msPerDay + t))).year
    (YearMonthDay.fromDays (floorDays (YearMonthDay.toDays ⟨1970, 1, 1⟩ * msPerDay + t))).month
  have := hF.hour_nonneg; have := hF.hour_lt
  refine ⟨?_, h1, h2, h3, le_trans h4 h5, by omega, by omega, ?_, ?_, ?_⟩ <;>
    simp only [TimestampFields.separate, weekdayFromDays] <;> omega

-- ════════════════════════════════════════════════════════════════════════
-- Separating and composing
-- ════════════════════════════════════════════════════════════════════════

/-- Composing, as `parse_timestamp` does, the fields the code separates a timestamp into gives
the timestamp back, in the years a `date::year` holds. -/
theorem separate_recompose {t : Int} (h1 : -32768 ≤ (TimestampFields.ofTimestamp t).year)
    (h2 : (TimestampFields.ofTimestamp t).year ≤ 32767) :
    YearMonthDay.toDays ⟨(TimestampFields.separate t).year, (TimestampFields.separate t).month,
        (TimestampFields.separate t).date⟩ * msPerDay + (TimestampFields.separate t).hour * 3600000 +
        (TimestampFields.separate t).minute * 60000 + (TimestampFields.separate t).second * 1000 +
        (TimestampFields.separate t).millisecond -
      YearMonthDay.toDays ⟨1970, 1, 1⟩ * msPerDay = t := by
  have hymd (y : YearMonthDay) : (⟨y.year, y.month, y.day⟩ : YearMonthDay) = y := rfl
  rw [separate_eq_ofTimestamp h1 h2]
  simp only [TimestampFields.ofTimestamp, hymd, toDays_fromDays, toDays_unixEpoch, msPerDay]
  omega

/-- The code separates the timestamp `parse_timestamp` composes from a valid date whose year a
`date::year` holds, and from a time of day, into that date, its weekday and that time of day. -/
theorem separate_ofFields {ymd : YearMonthDay} (hymd : ymd.IsValid) (hy1 : -32768 ≤ ymd.year)
    (hy2 : ymd.year ≤ 32767) {hour minute second millisecond : Nat} (hh : hour < 24)
    (hm : minute < 60) (hs : second < 60) (hms : millisecond < 1000) :
    TimestampFields.separate (ymd.toDays * msPerDay + hour * 3600000 + minute * 60000 +
        second * 1000 + millisecond - YearMonthDay.toDays ⟨1970, 1, 1⟩ * msPerDay) =
      ⟨weekdayFromDays ymd.toDays, ymd.day, ymd.month, ymd.year, hour, minute, second,
        millisecond⟩ := by
  have h := ofTimestamp_ofFields hymd hh hm hs hms
  rw [separate_eq_ofTimestamp (by rw [h]; exact hy1) (by rw [h]; exact hy2), h]

/-- **Separating and composing timestamps are inverse** in the years a `date::year` holds.
Every timestamp whose UTC year a `short` holds, before 1970 too, is what `parse_timestamp`
composes from the fields `insert_formatted_timestamp` separates it into; and every valid date in
those years with a time of day in range is what `insert_formatted_timestamp` separates the
timestamp `parse_timestamp` composes from it into, with its weekday. -/
theorem separate_inverse :
    (∀ timestamp : Int, -32768 ≤ (TimestampFields.ofTimestamp timestamp).year →
      (TimestampFields.ofTimestamp timestamp).year ≤ 32767 →
      YearMonthDay.toDays ⟨(TimestampFields.separate timestamp).year,
          (TimestampFields.separate timestamp).month,
          (TimestampFields.separate timestamp).date⟩ * msPerDay +
          (TimestampFields.separate timestamp).hour * 3600000 +
          (TimestampFields.separate timestamp).minute * 60000 +
          (TimestampFields.separate timestamp).second * 1000 +
          (TimestampFields.separate timestamp).millisecond -
        YearMonthDay.toDays ⟨1970, 1, 1⟩ * msPerDay = timestamp) ∧
    ∀ ymd : YearMonthDay, ymd.IsValid → -32768 ≤ ymd.year → ymd.year ≤ 32767 →
      ∀ hour minute second millisecond : Nat, hour < 24 → minute < 60 → second < 60 →
        millisecond < 1000 →
        TimestampFields.separate (ymd.toDays * msPerDay + hour * 3600000 + minute * 60000 +
            second * 1000 + millisecond - YearMonthDay.toDays ⟨1970, 1, 1⟩ * msPerDay) =
          ⟨weekdayFromDays ymd.toDays, ymd.day, ymd.month, ymd.year, hour, minute, second,
            millisecond⟩ :=
  ⟨fun _ => separate_recompose,
    fun _ hymd hy1 hy2 _ _ _ _ hh hm hs hms => separate_ofFields hymd hy1 hy2 hh hm hs hms⟩

/-- 2015-02-01 01:02:03.004 separates back into its fields. -/
theorem separate_inverse_feb2015 :
    YearMonthDay.IsValid ⟨2015, 2, 1⟩ ∧ -32768 ≤ (2015 : Int) ∧ (2015 : Int) ≤ 32767 ∧
      TimestampFields.separate (YearMonthDay.toDays ⟨2015, 2, 1⟩ * msPerDay +
          (1 : Nat) * 3600000 + (2 : Nat) * 60000 + (3 : Nat) * 1000 + (4 : Nat) -
          YearMonthDay.toDays ⟨1970, 1, 1⟩ * msPerDay) =
        ⟨weekdayFromDays (YearMonthDay.toDays ⟨2015, 2, 1⟩), 1, 2, 2015, 1, 2, 3, 4⟩ :=
  have hvalid : YearMonthDay.IsValid ⟨2015, 2, 1⟩ := by decide
  ⟨hvalid, by decide, by decide, separate_inverse.2 _ hvalid (by decide) (by decide) 1 2 3 4
    (by decide) (by decide) (by decide) (by decide)⟩

-- ════════════════════════════════════════════════════════════════════════
-- The timestamps parse_timestamp returns
-- ════════════════════════════════════════════════════════════════════════

/-- The ranges of the fields `parse_timestamp` reads: those its specifiers accept. -/
def ParsedFields.Bounded (f : ParsedFields) : Prop :=
  f.year ≤ 9999 ∧ f.hour ≤ 23 ∧ f.minute ≤ 59 ∧ f.second ≤ 60 ∧ f.millisecond ≤ 999

theorem parseNumericField_range {line : List Char} {lineIx w : Nat} {pad : Char} {lo hi v : Nat}
    (h : parseNumericField line lineIx w pad lo hi = .ok (some v)) : lo ≤ v ∧ v ≤ hi := by
  unfold parseNumericField at h
  split at h
  · cases h
  · cases hconv : convertStringToNumber line lineIx (lineIx + w) pad with
    | error e => simp [hconv] at h
    | ok r =>
      rcases r with _ | u
      · simp [hconv] at h
      · simp only [hconv, except_ok_bind] at h
        split_ifs at h with hc
        · cases h
        · cases h
          omega

theorem parseNumericSpecifier_value {line : List Char} {lineIx w : Nat} {pad : Char}
    {lo hi : Nat} {set : Nat → ParsedFields} {lineIx' : Nat} {f' : ParsedFields}
    (h : parseNumericSpecifier line lineIx w pad lo hi set = .ok (some (lineIx', f'))) :
    ∃ v, lo ≤ v ∧ v ≤ hi ∧ f' = set v := by
  unfold parseNumericSpecifier at h
  cases hfield : parseNumericField line lineIx w pad lo hi with
  | error e => simp [hfield] at h
  | ok r =>
    rcases r with _ | v
    · simp [hfield] at h
    · simp only [hfield, except_ok_bind, Except.ok.injEq, Option.some.injEq, Prod.mk.injEq] at h
      exact ⟨v, (parseNumericField_range hfield).1, (parseNumericField_range hfield).2, h.2.symm⟩

theorem parseNameSpecifier_value {line : List Char} {lineIx : Nat} {names : List String}
    {set : Nat → ParsedFields} {lineIx' : Nat} {f' : ParsedFields}
    (h : parseNameSpecifier line lineIx names set = .ok (some (lineIx', f'))) :
    ∃ k, f' = set k := by
  unfold parseNameSpecifier at h
  cases hm : matchName line lineIx names 0 with
  | error e => simp [hm] at h
  | ok r =>
    rcases r with _ | ⟨k, j⟩
    · simp [hm] at h
    · simp only [hm, except_ok_bind, Except.ok.injEq, Option.some.injEq, Prod.mk.injEq] at h
      exact ⟨k, h.2.symm⟩

theorem parsePartOfDay_value {line : List Char} {lineIx : Nat} {f : ParsedFields}
    {lineIx' : Nat} {f' : ParsedFields} (h : parsePartOfDay line lineIx f = .ok (some (lineIx', f'))) :
    ∃ b, f' = { f with isPm := b } := by
  unfold parsePartOfDay at h
  cases hc1 : compareEq line lineIx 2 "AM".toList with
  | error e => simp only [hc1, except_error_bind, reduceCtorEq] at h
  | ok b1 =>
    simp only [hc1, except_ok_bind] at h
    split at h
    · cases h
      exact ⟨false, rfl⟩
    · cases hc2 : compareEq line lineIx 2 "PM".toList with
      | error e => simp only [hc2, except_error_bind, reduceCtorEq] at h
      | ok b2 =>
        simp only [hc2, except_ok_bind] at h
        split at h
        · cases h
          exact ⟨true, rfl⟩
        · cases h

/-- **Step lemma**: a specifier keeps the fields in their ranges. -/
theorem parseSpecifier_bounded {line : List Char} {lineIx : Nat} {f : ParsedFields} {c : Char}
    {lineIx' : Nat} {f' : ParsedFields} (hf : f.Bounded)
    (h : parseSpecifier line lineIx f c = .ok (some (lineIx', f'))) : f'.Bounded := by
  unfold parseSpecifier at h
  split at h
  · cases hc : charAt line lineIx with
    | error e => simp only [hc, except_error_bind, reduceCtorEq] at h
    | ok ch =>
      simp only [hc, except_ok_bind] at h
      split at h <;> cases h
      exact hf
  all_goals first
    | (obtain ⟨v, hlo, hhi, rfl⟩ := parseNumericSpecifier_value h
       simp only [ParsedFields.Bounded] at hf ⊢
       (try split_ifs) <;> omega)
    | (obtain ⟨k, rfl⟩ := parseNameSpecifier_value h; exact hf)
    | (obtain ⟨b, rfl⟩ := parsePartOfDay_value h; exact hf)
    | cases h

theorem parseToken_bounded {line : List Char} {lineIx : Nat} {f : ParsedFields}
    {tok : FormatToken} {lineIx' : Nat} {f' : ParsedFields} (hf : f.Bounded)
    (h : parseToken line lineIx f tok = .ok (some (lineIx', f'))) : f'.Bounded := by
  cases tok with
  | literal c =>
    cases hc : charAt line lineIx with
    | error e => simp only [parseToken, hc, except_error_bind, reduceCtorEq] at h
    | ok ch =>
      simp only [parseToken, hc, except_ok_bind] at h
      split at h <;> cases h
      exact hf
  | specifier c => exact parseSpecifier_bounded hf h
  | danglingPercent => cases h; exact hf

/-- **Run lemma**: the format loop keeps the fields in their ranges. -/
theorem parseTokens_bounded (line : List Char) : ∀ (toks : List FormatToken) (lineIx : Nat)
    (f : ParsedFields) {lineIx' : Nat} {f' : ParsedFields}, f.Bounded →
      parseTokens line toks lineIx f = .ok (some (lineIx', f')) → f'.Bounded
  | [], _, _, _, _, hf, h => by cases h; exact hf
  | tok :: toks, lineIx, f, _, _, hf, h => by
    simp only [parseTokens] at h
    split at h
    · cases ht : parseToken line lineIx f tok with
      | error e => simp [ht] at h
      | ok r =>
        rcases r with _ | ⟨lineIx1, f1⟩
        · simp [ht] at h
        · simp only [ht, except_ok_bind] at h
          exact parseTokens_bounded line toks lineIx1 f1 (parseToken_bounded hf ht) h
    · cases h

theorem ParsedFields.hour24_le (f : ParsedFields) : f.hour24 ≤ f.hour + 12 := by
  unfold ParsedFields.hour24
  split_ifs <;> omega

/-- The day number of a date lies within two eras of where its year puts it. -/
theorem toDays_bounds {ymd : YearMonthDay} (h1 : ymd.month ≤ 12) (h2 : ymd.day ≤ 31) :
    (ymd.year - 1) * 146097 / 400 - 719468 - 146097 ≤ ymd.toDays ∧
      ymd.toDays ≤ ymd.year * 146097 / 400 - 719468 + 146097 := by
  simp only [YearMonthDay.toDays]
  split_ifs <;> omega

/-- **The timestamps `parse_timestamp` returns lie in the years a `date::year` holds**: it reads
years up to 9999 and a time of day of at most a day and a half. -/
theorem parseTimestamp_year {p : TimestampPattern} {line : List Char} {r : ParsedTimestamp}
    (h : p.parseTimestamp line = .ok (some r)) :
    -32768 ≤ (TimestampFields.ofTimestamp r.timestamp).year ∧
      (TimestampFields.ofTimestamp r.timestamp).year ≤ 32767 := by
  obtain ⟨-, f, hp, hok, ht⟩ := parseTimestamp_eq_some h
  obtain ⟨hy, hh, hmin, hs, hms⟩ : f.Bounded :=
    parseTokens_bounded line _ _ {} (by unfold ParsedFields.Bounded; decide) hp
  obtain ⟨-, hm1, -, hd1⟩ := of_decide_eq_true (Bool.and_eq_true _ _ ▸ hok).2
  have hdays := @toDays_bounds ⟨f.year, f.month, f.date⟩ hm1
    (le_trans hd1 (lastDay_le _ _))
  have hb := fromDays_year_bounds ((YearMonthDay.toDays ⟨1970, 1, 1⟩ * msPerDay + r.timestamp) /
    msPerDay)
  have h24 := f.hour24_le
  simp only [TimestampFields.ofTimestamp, toDays_unixEpoch, msPerDay] at hb ht hdays ⊢
  omega

end ClpCore
