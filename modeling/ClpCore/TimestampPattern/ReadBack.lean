import ClpCore.TimestampPattern.Digits
import ClpCore.TimestampPattern.Safety

/-!
# Reading back what the formatter wrote

`insert_formatted_timestamp` writes a timestamp token by token; `parse_timestamp` reads tokens
back. This file computes what the parser reads from the formatter's text, one token at a time
and then over a whole format: each token reads back the field the formatter wrote, where the
value lies in the range the parser accepts, and the parse fails otherwise.

## Main definitions

- `TimestampFields.InRange` — the ranges of the fields a timestamp separates into
- `readBack`, `readsBack` — the fields a token reads back, and whether it does

## Main results

- `ofTimestamp_inRange` — the fields of a timestamp's UTC date and time are in range
- `ofTimestamp_ofFields` — the UTC date and time of a composed timestamp
- `parseToken_formatToken` — the step lemma: one token read back
- `parseTokens_formatTokens` — the run lemma: a whole format read back
-/

namespace ClpCore

open Date

/-- The fields of a timestamp lie in their ranges. -/
structure TimestampFields.InRange (F : TimestampFields) : Prop where
  dayOfWeekIx_lt : F.dayOfWeekIx < 7
  month_pos : 1 ≤ F.month
  month_le : F.month ≤ 12
  date_pos : 1 ≤ F.date
  date_le : F.date ≤ 31
  hour_nonneg : 0 ≤ F.hour
  hour_lt : F.hour < 24
  minute_lt : F.minute < 60
  second_lt : F.second < 60
  millisecond_lt : F.millisecond < 1000

theorem lastDay_le (y : Int) (m : Nat) : lastDay y m ≤ 31 := by
  unfold lastDay
  split
  · next h =>
    obtain ⟨-, h1, h2⟩ := h
    interval_cases m <;> decide
  · omega

/-- The UTC date and time of every timestamp: a weekday, a valid month and day, and a time of
day whose fields are in range. -/
theorem ofTimestamp_inRange (timestamp : Int) : (TimestampFields.ofTimestamp timestamp).InRange := by
  obtain ⟨h1, h2, h3, h4⟩ := fromDays_isValid
    ((YearMonthDay.toDays ⟨1970, 1, 1⟩ * msPerDay + timestamp) / msPerDay)
  have h5 := lastDay_le (YearMonthDay.fromDays
    ((YearMonthDay.toDays ⟨1970, 1, 1⟩ * msPerDay + timestamp) / msPerDay)).year
    (YearMonthDay.fromDays
    ((YearMonthDay.toDays ⟨1970, 1, 1⟩ * msPerDay + timestamp) / msPerDay)).month
  simp only [TimestampFields.ofTimestamp, weekdayFromDays, toDays_unixEpoch, msPerDay] at *
  constructor <;> dsimp only <;> omega

/-- **Composing a timestamp.** The UTC date and time of the timestamp `parse_timestamp`
computes from a valid date and a time of day are that date, its weekday and that time of day. -/
theorem ofTimestamp_ofFields {ymd : YearMonthDay} (hymd : ymd.IsValid) {hour minute second
    millisecond : Nat} (hh : hour < 24) (hm : minute < 60) (hs : second < 60)
    (hms : millisecond < 1000) :
    TimestampFields.ofTimestamp (ymd.toDays * msPerDay + hour * 3600000 + minute * 60000 +
        second * 1000 + millisecond - YearMonthDay.toDays ⟨1970, 1, 1⟩ * msPerDay) =
      ⟨weekdayFromDays ymd.toDays, ymd.day, ymd.month, ymd.year, hour, minute, second,
        millisecond⟩ := by
  have hdays : (YearMonthDay.toDays ⟨1970, 1, 1⟩ * msPerDay + (ymd.toDays * msPerDay +
      hour * 3600000 + minute * 60000 + second * 1000 + millisecond -
      YearMonthDay.toDays ⟨1970, 1, 1⟩ * msPerDay)) / msPerDay = ymd.toDays := by
    simp only [toDays_unixEpoch, msPerDay]
    omega
  simp only [TimestampFields.ofTimestamp, hdays, fromDays_toDays ymd hymd]
  simp only [toDays_unixEpoch, msPerDay, TimestampFields.mk.injEq]
  refine ⟨trivial, trivial, trivial, trivial, ?_, ?_, ?_, ?_⟩ <;> omega

/-- The weekday of a timestamp is that of its date. -/
theorem ofTimestamp_dayOfWeekIx (timestamp : Int) :
    (TimestampFields.ofTimestamp timestamp).dayOfWeekIx =
      weekdayFromDays (YearMonthDay.toDays ⟨(TimestampFields.ofTimestamp timestamp).year,
        (TimestampFields.ofTimestamp timestamp).month,
        (TimestampFields.ofTimestamp timestamp).date⟩) := by
  exact congrArg weekdayFromDays (toDays_fromDays _).symm

-- ════════════════════════════════════════════════════════════════════════
-- The formatter appends
-- ════════════════════════════════════════════════════════════════════════

theorem appendPaddedValue_append (v : Int) (pad : Char) (w : Nat) (acc : List Char) :
    appendPaddedValue v pad w acc = (appendPaddedValue v pad w []).map (acc ++ ·) := by
  simp only [appendPaddedValue]
  split <;> simp [Except.map]

theorem appendPaddedValue_length {v : Int} {pad : Char} {w : Nat} {txt : List Char}
    (h : appendPaddedValue v pad w [] = .ok txt) : txt.length = w := by
  simp only [appendPaddedValue] at h
  split at h
  · cases h
    simp only [List.nil_append, List.length_append, List.length_replicate]
    omega
  · cases h

theorem formatSpecifier_append (F : TimestampFields) (acc : List Char) (c : Char) :
    formatSpecifier F acc c = (formatSpecifier F [] c).map (acc ++ ·) := by
  unfold formatSpecifier
  split <;> first | rw [appendPaddedValue_append] | simp [Except.map]

theorem formatToken_append (F : TimestampFields) (acc : List Char) (tok : FormatToken) :
    formatToken F acc tok = (formatToken F [] tok).map (acc ++ ·) := by
  cases tok with
  | specifier c => exact formatSpecifier_append F acc c
  | _ => simp [formatToken, Except.map]

/-- **Frame lemma** of the format loop: it appends its text to what is already there. -/
theorem formatTokens_append (F : TimestampFields) :
    ∀ (toks : List FormatToken) (acc : List Char),
      formatTokens F toks acc = (formatTokens F toks []).map (acc ++ ·)
  | [], acc => by simp [Except.map]
  | tok :: toks, acc => by
    simp only [formatTokens]
    rw [formatToken_append]
    cases formatToken F [] tok with
    | error e => rfl
    | ok txt =>
      simp only [Except.map, except_ok_bind]
      rw [formatTokens_append F toks (acc ++ txt), formatTokens_append F toks txt]
      cases formatTokens F toks [] <;> simp [Except.map]

-- ════════════════════════════════════════════════════════════════════════
-- Names
-- ════════════════════════════════════════════════════════════════════════

/-- No name of the table is a prefix of another, so a name followed by anything is read back as
that name. -/
def PrefixFree (names : List String) : Prop :=
  names.Pairwise fun a b => ¬a.toList <+: b.toList ∧ ¬b.toList <+: a.toList

instance : DecidablePred PrefixFree := fun names =>
  inferInstanceAs (Decidable (names.Pairwise _))

theorem prefixFree_cMonthNames : PrefixFree cMonthNames := by decide

theorem prefixFree_cAbbrevMonthNames : PrefixFree cAbbrevMonthNames := by decide

theorem prefixFree_cAbbrevDaysOfWeek : PrefixFree cAbbrevDaysOfWeek := by decide

/-- The name loop reads back the name at index `k`. -/
theorem matchName_getD : ∀ {names : List String}, PrefixFree names → ∀ (k ix : Nat)
    (pre rest : List Char), k < names.length →
      matchName (pre ++ (names.getD k "").toList ++ rest) pre.length names ix =
        .ok (some (ix + k, pre.length + (names.getD k "").length))
  | [], _, k, _, _, _, hk => absurd hk (Nat.not_lt_zero k)
  | name :: names, hpf, k, ix, pre, rest, hk => by
    have hcmp : ∀ s : List Char, compareEq (pre ++ s ++ rest) pre.length name.length name.toList =
        .ok ((s ++ rest).take name.toList.length == name.toList) := fun s => by
      rw [compareEq_of_le _ _ (by simp)]
      simp
    cases k with
    | zero =>
      simp only [matchName, List.getD_cons_zero, hcmp, List.take_left, beq_self_eq_true,
        except_ok_bind, if_true]
      rfl
    | succ k =>
      obtain ⟨hhead, htail⟩ := List.pairwise_cons.mp hpf
      have hmem : names.getD k "" ∈ names := by
        rw [List.getD_eq_getElem _ _ (by simpa using hk)]
        exact List.getElem_mem _
      have hne : ((names.getD k "").toList ++ rest).take name.toList.length ≠ name.toList := by
        intro h
        have hp : name.toList <+: (names.getD k "").toList ++ rest := h ▸ List.take_prefix _ _
        rcases List.prefix_or_prefix_of_prefix hp (List.prefix_append _ _) with h' | h'
        · exact (hhead _ hmem).1 h'
        · exact (hhead _ hmem).2 h'
      simp only [matchName, List.getD_cons_succ, hcmp, hne, beq_iff_eq, except_ok_bind,
        if_false]
      rw [matchName_getD htail k (ix + 1) pre rest (by simpa using hk)]
      simp only [Nat.add_right_comm, Nat.add_assoc]

-- ════════════════════════════════════════════════════════════════════════
-- One token read back
-- ════════════════════════════════════════════════════════════════════════

/-- The conversion specifiers that `parse_timestamp` and `insert_formatted_timestamp` support. -/
inductive Specifier
  | percent | twoDigitYear | year | monthName | abbrevMonthName | month | date | spaceDate
  | abbrevDayOfWeek | partOfDay | hour | spaceHour | hour12 | spaceHour12 | minute | second
  | millisecond
  deriving DecidableEq, Repr

/-- The specifier a character after `%` names, as the `switch` statements read it. -/
def Specifier.ofChar : Char → Option Specifier
  | '%' => some .percent
  | 'y' => some .twoDigitYear
  | 'Y' => some .year
  | 'B' => some .monthName
  | 'b' => some .abbrevMonthName
  | 'm' => some .month
  | 'd' => some .date
  | 'e' => some .spaceDate
  | 'a' => some .abbrevDayOfWeek
  | 'p' => some .partOfDay
  | 'H' => some .hour
  | 'k' => some .spaceHour
  | 'I' => some .hour12
  | 'l' => some .spaceHour12
  | 'M' => some .minute
  | 'S' => some .second
  | '3' => some .millisecond
  | _ => none

/-- Whether `parse_timestamp` reads back what `insert_formatted_timestamp` wrote for the
specifier from `F`: the written value lies in the range the parser accepts. The other fields
always do when they lie in their ranges. -/
def Specifier.readsBack (F : TimestampFields) : Specifier → Bool
  | .twoDigitYear =>
    let v := if F.year ≥ 2000 then F.year - 2000 else F.year - 1900
    decide (0 ≤ v ∧ v ≤ 99)
  | .year => decide (0 ≤ F.year ∧ F.year ≤ 9999)
  | .hour12 | .spaceHour12 => decide (hourOn12HourClock F.hour ≤ 12)
  | _ => true

/-- The fields `parse_timestamp` holds after reading back what `insert_formatted_timestamp`
wrote for the specifier from `F`, starting from `f`. -/
def Specifier.readBack (F : TimestampFields) (f : ParsedFields) : Specifier → ParsedFields
  | .twoDigitYear =>
    let v := (if F.year ≥ 2000 then F.year - 2000 else F.year - 1900).toNat
    { f with year := if v ≥ 69 then v + 1900 else v + 2000 }
  | .year => { f with year := F.year.toNat }
  | .monthName | .abbrevMonthName | .month => { f with month := F.month }
  | .date | .spaceDate => { f with date := F.date }
  | .hour | .spaceHour => { f with hour := F.hour.toNat }
  | .hour12 | .spaceHour12 =>
    { f with hour := (hourOn12HourClock F.hour).toNat, uses12HourClock := true }
  | .partOfDay => { f with isPm := decide (F.hour > 11) }
  | .minute => { f with minute := F.minute }
  | .second => { f with second := F.second }
  | .millisecond => { f with millisecond := F.millisecond }
  | .percent | .abbrevDayOfWeek => f

/-- Whether what the formatter wrote for `tok` reads back. -/
def readsBack (F : TimestampFields) : FormatToken → Bool
  | .specifier c => ((Specifier.ofChar c).map (Specifier.readsBack F)).getD true
  | _ => true

/-- The fields the parser holds after reading back what the formatter wrote for `tok`. -/
def readBack (F : TimestampFields) (f : ParsedFields) : FormatToken → ParsedFields
  | .specifier c => ((Specifier.ofChar c).map (Specifier.readBack F f)).getD f
  | _ => f

theorem parseNumericSpecifier_appendPaddedValue {v : Int} {pad : Char} {w : Nat}
    {txt : List Char} (hpad : pad = '0' ∨ pad = ' ') (h : appendPaddedValue v pad w [] = .ok txt)
    (pre rest : List Char) (lo hi : Nat) (set : Nat → ParsedFields) :
    parseNumericSpecifier (pre ++ txt ++ rest) pre.length w pad lo hi set =
      .ok (if 0 ≤ v ∧ lo ≤ v ∧ v ≤ hi then some (pre.length + txt.length, set v.toNat)
        else none) := by
  rw [parseNumericSpecifier, parseNumericField_appendPaddedValue hpad h,
    appendPaddedValue_length h]
  split <;> rfl

theorem parseNameSpecifier_getD {names : List String} (hpf : PrefixFree names) {k : Nat}
    (hk : k < names.length) (pre rest : List Char) (set : Nat → ParsedFields) :
    parseNameSpecifier (pre ++ (names.getD k "").toList ++ rest) pre.length names set =
      .ok (some (pre.length + (names.getD k "").toList.length, set k)) := by
  rw [parseNameSpecifier, matchName_getD hpf k 0 pre rest hk, except_ok_bind, Nat.zero_add]
  rfl

theorem hourOn12HourClock_pos {hour : Int} (h : 0 ≤ hour) : 1 ≤ hourOn12HourClock hour := by
  unfold hourOn12HourClock
  split_ifs <;> omega

/-- A character the formatter wrote reads back as itself. -/
theorem parseChar_append (c : Char) (pre rest : List Char) (f : ParsedFields) :
    (do if c ≠ (← charAt (pre ++ [c] ++ rest) pre.length) then Except.ok none
        else Except.ok (some (pre.length + 1, f)) : Except LineAccessError _) =
      .ok (some (pre.length + [c].length, f)) := by
  rw [List.append_assoc, List.singleton_append, charAt_append_cons]
  simp

/-- A numeric field the formatter wrote reads back, under the range check. -/
theorem parseNumericSpecifier_written {v : Int} {pad : Char} {w : Nat} {txt : List Char}
    (hpad : pad = '0' ∨ pad = ' ') (h : appendPaddedValue v pad w [] = .ok txt)
    (pre rest : List Char) (lo hi : Nat) (set : Nat → ParsedFields) {rb : Bool}
    {g : ParsedFields} (hrb : rb = true ↔ 0 ≤ v ∧ lo ≤ v ∧ v ≤ hi) (hg : set v.toNat = g) :
    parseNumericSpecifier (pre ++ txt ++ rest) pre.length w pad lo hi set =
      .ok (if rb then some (pre.length + txt.length, g) else none) := by
  rw [parseNumericSpecifier_appendPaddedValue hpad h, hg]
  by_cases hc : 0 ≤ v ∧ lo ≤ v ∧ v ≤ hi
  · rw [if_pos hc, if_pos (hrb.mpr hc)]
  · rw [if_neg hc, if_neg (mt hrb.mp hc)]

/-- A name the formatter wrote reads back as its index. -/
theorem parseNameSpecifier_written {names : List String} (hpf : PrefixFree names) {k : Nat}
    (hk : k < names.length) (pre rest : List Char) (set : Nat → ParsedFields) {g : ParsedFields}
    (hg : set k = g) :
    parseNameSpecifier (pre ++ ([] ++ (names.getD k "").toList) ++ rest) pre.length names set =
      .ok (if true then some (pre.length + ([] ++ (names.getD k "").toList).length, g)
        else none) := by
  rw [List.nil_append, parseNameSpecifier_getD hpf hk, hg]
  rfl

/-- The part of day the formatter wrote reads back. -/
theorem parsePartOfDay_written (P : Prop) [Decidable P] (pre rest : List Char) (f : ParsedFields) :
    parsePartOfDay (pre ++ ([] ++ (if P then "PM" else "AM").toList) ++ rest) pre.length f =
      .ok (if true then some (pre.length + ([] ++ (if P then "PM" else "AM").toList).length,
        { f with isPm := decide P }) else none) := by
  have hcmp : ∀ s t : List Char, compareEq (pre ++ s ++ rest) pre.length 2 t =
      .ok ((s ++ rest).take 2 == t) := fun s t => by
    rw [compareEq_of_le _ _ (by simp)]
    simp
  unfold parsePartOfDay
  rw [hcmp, hcmp]
  by_cases hP : P <;> simp [hP]

/-- **Step lemma** for specifiers: what `insert_formatted_timestamp` wrote for a specifier
reads back as `readBack`, where `readsBack` holds, and fails otherwise. -/
theorem parseSpecifier_formatSpecifier {F : TimestampFields} (hF : F.InRange) {c : Char}
    {txt : List Char} (h : formatSpecifier F [] c = .ok txt) (pre rest : List Char)
    (f : ParsedFields) :
    parseSpecifier (pre ++ txt ++ rest) pre.length f c =
      .ok (if readsBack F (.specifier c) then
        some (pre.length + txt.length, readBack F f (.specifier c)) else none) := by
  obtain ⟨h1, h2, h3, h4, h5, h6, h7, h8, h9, h10⟩ := hF
  have h11 := hourOn12HourClock_pos h6
  unfold formatSpecifier at h
  split at h
  · cases h
    exact parseChar_append '%' pre rest f
  · exact parseNumericSpecifier_written (by decide) h pre rest _ _ _
      (decide_eq_true_iff.trans (by omega)) rfl
  · exact parseNumericSpecifier_written (by decide) h pre rest _ _ _
      (decide_eq_true_iff.trans (by omega)) rfl
  · cases h
    exact parseNameSpecifier_written prefixFree_cMonthNames (k := F.month - 1)
      (by rw [show cMonthNames.length = 12 from rfl]; omega) pre rest _
      (congrArg (fun m => { f with month := m }) (Nat.sub_add_cancel h2))
  · cases h
    exact parseNameSpecifier_written prefixFree_cAbbrevMonthNames (k := F.month - 1)
      (by rw [show cAbbrevMonthNames.length = 12 from rfl]; omega) pre rest _
      (congrArg (fun m => { f with month := m }) (Nat.sub_add_cancel h2))
  · exact parseNumericSpecifier_written (by decide) h pre rest _ _ _ (iff_of_true rfl (by omega)) rfl
  · exact parseNumericSpecifier_written (by decide) h pre rest _ _ _ (iff_of_true rfl (by omega)) rfl
  · exact parseNumericSpecifier_written (by decide) h pre rest _ _ _ (iff_of_true rfl (by omega)) rfl
  · cases h
    exact parseNameSpecifier_written prefixFree_cAbbrevDaysOfWeek (k := F.dayOfWeekIx)
      (by rw [show cAbbrevDaysOfWeek.length = 7 from rfl]; omega) pre rest _ rfl
  · cases h
    exact parsePartOfDay_written (F.hour > 11) pre rest f
  · exact parseNumericSpecifier_written (by decide) h pre rest _ _ _ (iff_of_true rfl (by omega)) rfl
  · exact parseNumericSpecifier_written (by decide) h pre rest _ _ _ (iff_of_true rfl (by omega)) rfl
  · exact parseNumericSpecifier_written (by decide) h pre rest _ _ _
      (decide_eq_true_iff.trans (by omega)) rfl
  · exact parseNumericSpecifier_written (by decide) h pre rest _ _ _
      (decide_eq_true_iff.trans (by omega)) rfl
  · exact parseNumericSpecifier_written (by decide) h pre rest _ _ _ (iff_of_true rfl (by omega)) rfl
  · exact parseNumericSpecifier_written (by decide) h pre rest _ _ _ (iff_of_true rfl (by omega)) rfl
  · exact parseNumericSpecifier_written (by decide) h pre rest _ _ _ (iff_of_true rfl (by omega)) rfl
  · cases h

theorem formatSpecifier_ne_nil {F : TimestampFields} (hF : F.InRange) {c : Char}
    {txt : List Char} (h : formatSpecifier F [] c = .ok txt) : txt ≠ [] := by
  have hname : ∀ {names : List String} {k : Nat}, (∀ name ∈ names, name.toList ≠ []) →
      k < names.length → [] ++ (names.getD k "").toList ≠ [] := fun hne hk => by
    rw [List.nil_append, List.getD_eq_getElem _ _ hk]
    exact hne _ (List.getElem_mem _)
  obtain ⟨h1, h2, h3, h4, h5, h6, h7, h8, h9, h10⟩ := hF
  unfold formatSpecifier at h
  split at h
  all_goals first
    | (rw [← List.length_pos, appendPaddedValue_length h]; decide)
    | (cases h; simp; done)
    | (cases h; exact hname (by decide) (by rw [show cMonthNames.length = 12 from rfl]; omega))
    | (cases h; exact hname (by decide)
        (by rw [show cAbbrevMonthNames.length = 12 from rfl]; omega))
    | (cases h; exact hname (by decide)
        (by rw [show cAbbrevDaysOfWeek.length = 7 from rfl]; omega))
    | (cases h; split <;> simp)
    | cases h

theorem formatToken_ne_nil {F : TimestampFields} (hF : F.InRange) {tok : FormatToken}
    {txt : List Char} (h : formatToken F [] tok = .ok txt) (htok : tok ≠ .danglingPercent) :
    txt ≠ [] := by
  cases tok with
  | literal c => cases h; simp
  | specifier c => exact formatSpecifier_ne_nil hF h
  | danglingPercent => exact absurd rfl htok

/-- **Step lemma**: what `insert_formatted_timestamp` wrote for a token reads back as
`readBack`, where `readsBack` holds, and fails otherwise. -/
theorem parseToken_formatToken {F : TimestampFields} (hF : F.InRange) {tok : FormatToken}
    {txt : List Char} (h : formatToken F [] tok = .ok txt) (htok : tok ≠ .danglingPercent)
    (pre rest : List Char) (f : ParsedFields) :
    parseToken (pre ++ txt ++ rest) pre.length f tok =
      .ok (if readsBack F tok then some (pre.length + txt.length, readBack F f tok) else none) := by
  cases tok with
  | literal c =>
    cases h
    exact parseChar_append c pre rest f
  | specifier c => exact parseSpecifier_formatSpecifier hF h pre rest f
  | danglingPercent => exact absurd rfl htok

/-- **Run lemma**: what `insert_formatted_timestamp`'s loop wrote for a format reads back
through `parse_timestamp`'s loop as the fold of `readBack`, where every token reads back, and
fails otherwise. -/
theorem parseTokens_formatTokens {F : TimestampFields} (hF : F.InRange) :
    ∀ (toks : List FormatToken) {txt : List Char}, formatTokens F toks [] = .ok txt →
      (∀ tok ∈ toks, tok ≠ .danglingPercent) → ∀ (pre rest : List Char) (f : ParsedFields),
        parseTokens (pre ++ txt ++ rest) toks pre.length f =
          .ok (if toks.all (readsBack F) then
            some (pre.length + txt.length, toks.foldl (readBack F) f) else none)
  | [], txt, h, _, pre, rest, f => by cases h; simp
  | tok :: toks, txt, h, hd, pre, rest, f => by
    simp only [formatTokens] at h
    cases h1 : formatToken F [] tok with
    | error e => rw [h1] at h; cases h
    | ok txt1 =>
      rw [h1, except_ok_bind, formatTokens_append] at h
      cases h2 : formatTokens F toks [] with
      | error e => rw [h2] at h; cases h
      | ok txt2 =>
        rw [h2] at h
        cases h
        have htok := hd tok (.head _)
        have hlt : pre.length < (pre ++ (txt1 ++ txt2) ++ rest).length := by
          have := List.length_pos.mpr (formatToken_ne_nil hF h1 htok)
          simp only [List.length_append]
          omega
        rw [parseTokens, if_pos hlt, show pre ++ (txt1 ++ txt2) ++ rest =
          pre ++ txt1 ++ (txt2 ++ rest) by simp, parseToken_formatToken hF h1 htok]
        by_cases hrb : readsBack F tok
        · have ih := parseTokens_formatTokens hF toks h2 (fun t ht => hd t (.tail _ ht))
            (pre ++ txt1) rest (readBack F f tok)
          rw [List.length_append, show pre ++ txt1 ++ txt2 ++ rest = pre ++ txt1 ++ (txt2 ++ rest)
            by simp] at ih
          simp only [hrb, if_true, except_ok_bind, ih, List.all_cons, Bool.true_and,
            List.foldl_cons, List.length_append, Nat.add_assoc]
        · simp [hrb]

end ClpCore
