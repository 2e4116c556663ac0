import ClpCore.TimestampPattern.Inverse

/-!
# When the formatter throws

`insert_formatted_timestamp` throws `OperationFailed` with `ErrorCode_Failure` when the message
has fewer spaces than the pattern's preamble, `OperationFailed` with `ErrorCode_Unsupported` on a
specifier its `switch` does not know, and `std::length_error` from `append_padded_value` when the
text of a number is wider than its field. This file says exactly when each happens, for the
fields the code separates a timestamp into (`TimestampFields.separate`). Every field but the year
and the hour fits its width, so a format of known specifiers, as every format of the catalog is,
throws `std::length_error` for the years outside `YearWritable`, for the hours outside
`HourWritable` (a negative hour below `-9`, which the code computes where the day count wraps
before 1970), and for nothing else.

## Main definitions

- `Specifier.writes`, `FormatToken.writes` — whether a specifier is written without throwing
- `TimestampPattern.YearWritable`, `TimestampPattern.HourWritable` — the years and hours a
  pattern writes

## Main results

- `formatSpecifier_eq_error_iff` — a known specifier throws only for a year or hour too wide
- `formatTokens_ok_iff` — the format loop writes exactly when every token does
- `insertFormattedTimestamp_ok_iff` — when `insert_formatted_timestamp` returns
- `insertFormattedTimestamp_eq_error_iff` — what it throws, for a format of known specifiers
-/

namespace ClpCore

-- ════════════════════════════════════════════════════════════════════════
-- One specifier
-- ════════════════════════════════════════════════════════════════════════

/-- Whether specifier `s` writes fields `F` without `append_padded_value` throwing: only a year
or a negative hour can be too wide for its field. -/
def Specifier.writes (F : TimestampFields) : Specifier → Bool
  | .twoDigitYear => decide (1890 < F.year ∧ F.year < 2100)
  | .year => decide (-1000 < F.year ∧ F.year < 10000)
  | .hour | .spaceHour | .hour12 | .spaceHour12 => decide (-10 < F.hour)
  | _ => true

/-- The `default` case of the `switch`. -/
theorem formatSpecifier_unsupported {c : Char} (hs : Specifier.ofChar c = none)
    (F : TimestampFields) (acc : List Char) :
    formatSpecifier F acc c = .error (.operationFailed .unsupported) := by
  unfold Specifier.ofChar at hs
  split at hs <;> cases hs
  unfold formatSpecifier
  split <;> first | rfl | contradiction

/-- A known specifier throws `std::length_error` when its number is too wide, and nothing
otherwise. -/
theorem formatSpecifier_eq_error_iff {F : TimestampFields} (hF : F.Separated) {c : Char}
    {s : Specifier} (hs : Specifier.ofChar c = some s) (acc : List Char) (e : InsertError) :
    formatSpecifier F acc c = .error e ↔ s.writes F = false ∧ e = .lengthError := by
  have := hF.month_le; have := hF.date_le; have := hF.hour_ge; have := hF.hour_lt
  have := hF.minute_lt; have := hF.second_lt; have := hF.millisecond_lt
  have h12 : hourOn12HourClock F.hour ≤ 13 ∧ (-10 < hourOn12HourClock F.hour ↔ -10 < F.hour) := by
    unfold hourOn12HourClock; split_ifs <;> omega
  unfold Specifier.ofChar at hs
  split at hs <;> cases hs <;> unfold formatSpecifier <;>
    simp only [Specifier.writes, appendPaddedValue_eq_error_iff (by norm_num : 1 ≤ 2),
      appendPaddedValue_eq_error_iff (by norm_num : 1 ≤ 3),
      appendPaddedValue_eq_error_iff (by norm_num : 1 ≤ 4), Nat.reduceSub, Int.reducePow, pow_one,
      reduceCtorEq, Bool.true_eq_false, false_and, iff_false, decide_eq_false_iff_not] <;>
    (try split_ifs) <;>
    first | omega | exact and_congr_left fun _ => by omega

-- ════════════════════════════════════════════════════════════════════════
-- The format loop
-- ════════════════════════════════════════════════════════════════════════

/-- Whether `insert_formatted_timestamp` writes token `tok` of fields `F` without throwing. -/
def FormatToken.writes (F : TimestampFields) : FormatToken → Bool
  | .specifier c => ((Specifier.ofChar c).map (Specifier.writes F)).getD false
  | _ => true

theorem FormatToken.writes_of_specifier? {F : TimestampFields} {tok : FormatToken} {s : Specifier}
    (hs : tok.specifier? = some s) : tok.writes F = s.writes F := by
  cases tok <;> simp_all [FormatToken.specifier?, FormatToken.writes]

theorem exists_ok_iff {ε α : Type} (x : Except ε α) : (∃ a, x = .ok a) ↔ ∀ e, x ≠ .error e := by
  cases x <;> simp

theorem formatToken_ok_iff {F : TimestampFields} (hF : F.Separated) (tok : FormatToken) :
    (∃ a, formatToken F [] tok = .ok a) ↔ tok.writes F = true := by
  cases tok with
  | specifier c =>
    cases hs : Specifier.ofChar c with
    | none => simp [formatToken, FormatToken.writes, hs, formatSpecifier_unsupported hs]
    | some s =>
      rw [exists_ok_iff]
      simp [formatToken, FormatToken.writes, hs, formatSpecifier_eq_error_iff hF hs]
  | _ => simp [formatToken, FormatToken.writes]

/-- **The format loop writes exactly when every token does.** -/
theorem formatTokens_ok_iff {F : TimestampFields} (hF : F.Separated) :
    ∀ (toks : List FormatToken) (acc : List Char),
      (∃ txt, formatTokens F toks acc = .ok txt) ↔ toks.all (FormatToken.writes F) = true
  | [], acc => by simp
  | tok :: toks, acc => by
    rw [formatTokens, formatToken_append, List.all_cons, Bool.and_eq_true, ← formatToken_ok_iff hF]
    cases formatToken F [] tok with
    | error e => simp [Except.map]
    | ok a => simp [Except.map, formatTokens_ok_iff hF toks]

/-- What the format loop throws, one of its tokens throws. -/
theorem formatTokens_error (F : TimestampFields) : ∀ {toks : List FormatToken} {acc : List Char}
    {e : InsertError}, formatTokens F toks acc = .error e →
      ∃ tok ∈ toks, formatToken F [] tok = .error e
  | [], _, _, h => by cases h
  | tok :: toks, acc, e, h => by
    rw [formatTokens, formatToken_append] at h
    cases ht : formatToken F [] tok with
    | error e' =>
      rw [ht] at h
      cases h
      exact ⟨tok, .head _, ht⟩
    | ok a =>
      rw [ht] at h
      obtain ⟨tok', htok', h'⟩ := formatTokens_error F h
      exact ⟨tok', .tail _ htok', h'⟩

-- ════════════════════════════════════════════════════════════════════════
-- insert_formatted_timestamp
-- ════════════════════════════════════════════════════════════════════════

/-- The format writes the year as `%Y`. -/
def TimestampPattern.hasFourDigitYear (p : TimestampPattern) : Bool :=
  (tokenize p.format.toList).any (·.specifier? == some .year)

/-- The format writes the hour, on either clock. -/
def TimestampPattern.hasHour (p : TimestampPattern) : Bool :=
  (tokenize p.format.toList).any (·.group? == some .hour)

/-- The years `insert_formatted_timestamp` writes without throwing: `std::to_string` of the year
fits the four characters of `%Y`, and of the year less 2000 or 1900 the two of `%y`. Under `%y`
the years 1891 to 1899 are written as `-9` to `-1`. -/
def TimestampPattern.YearWritable (p : TimestampPattern) (year : Int) : Prop :=
  (p.hasFourDigitYear = true → -1000 < year ∧ year < 10000) ∧
    (p.hasTwoDigitYear = true → 1890 < year ∧ year < 2100)

instance (p : TimestampPattern) (year : Int) : Decidable (p.YearWritable year) :=
  inferInstanceAs (Decidable ((_ → _) ∧ (_ → _)))

/-- The hours `insert_formatted_timestamp` writes without throwing: `std::to_string` of the hour
fits the two characters of `%H`, `%k`, `%I` and `%l`, which a negative hour below `-9` does not. -/
def TimestampPattern.HourWritable (p : TimestampPattern) (hour : Int) : Prop :=
  p.hasHour = true → -10 < hour

instance (p : TimestampPattern) (hour : Int) : Decidable (p.HourWritable hour) :=
  inferInstanceAs (Decidable (_ → _))

/-- Every token of a format is written exactly when its specifiers are known and the year and
the hour fit. -/
theorem all_writes_iff {p : TimestampPattern} {F : TimestampFields} :
    (tokenize p.format.toList).all (FormatToken.writes F) = true ↔
      (∀ c, FormatToken.specifier c ∈ tokenize p.format.toList → (Specifier.ofChar c).isSome) ∧
        p.YearWritable F.year ∧ p.HourWritable F.hour := by
  simp only [List.all_eq_true, TimestampPattern.YearWritable, TimestampPattern.HourWritable,
    TimestampPattern.hasFourDigitYear, TimestampPattern.hasTwoDigitYear,
    TimestampPattern.hasHour, List.any_eq_true, beq_iff_eq]
  constructor
  · intro h
    refine ⟨fun c hc => ?_, ⟨fun ⟨tok, htok, hy⟩ => ?_, fun ⟨tok, htok, hy⟩ => ?_⟩,
      fun ⟨tok, htok, hg⟩ => ?_⟩
    · have := h _ hc
      cases hs : Specifier.ofChar c <;> simp_all [FormatToken.writes]
    · simpa [FormatToken.writes_of_specifier? hy, Specifier.writes] using h tok htok
    · simpa [FormatToken.writes_of_specifier? hy, Specifier.writes] using h tok htok
    · obtain ⟨s, hs, hsg⟩ := specifier?_of_group? hg
      have := h tok htok
      rw [FormatToken.writes_of_specifier? hs] at this
      cases s <;> first | simpa [Specifier.writes] using this | cases hsg
  · rintro ⟨hknown, ⟨h4, h2⟩, hh⟩ tok htok
    cases tok with
    | specifier c =>
      obtain ⟨s, hs⟩ := Option.isSome_iff_exists.mp (hknown c htok)
      have hs' : (FormatToken.specifier c).specifier? = some s := hs
      rw [FormatToken.writes_of_specifier? hs']
      cases s
      case twoDigitYear => simpa [Specifier.writes] using h2 ⟨_, htok, hs'⟩
      case year => simpa [Specifier.writes] using h4 ⟨_, htok, hs'⟩
      case hour | spaceHour | hour12 | spaceHour12 =>
        simpa [Specifier.writes] using hh ⟨_, htok, by rw [group?_of_specifier? hs']; rfl⟩
      all_goals rfl
    | _ => rfl

/-- Too few spaces: `ErrorCode_Failure`. -/
theorem insertFormattedTimestamp_of_count_lt {p : TimestampPattern} {t : Int} {c : List Char}
    (h : c.count ' ' < p.numSpacesBeforeTs.toNat) :
    p.insertFormattedTimestamp t c = .error (.operationFailed .failure) := by
  obtain ⟨b, found, hfind, -, hcount, -⟩ := findTimestampBegin_start c p.numSpacesBeforeTs.toNat
  have hlt : found < p.numSpacesBeforeTs.toNat :=
    hcount ▸ lt_of_le_of_lt ((List.take_sublist b c).count_le ' ') h
  simp only [TimestampPattern.insertFormattedTimestamp, hfind, Except.mapError, except_ok_bind,
    hlt, if_true]
  rfl

/-- **When `insert_formatted_timestamp` returns.** For every pattern, timestamp and message: it
returns exactly when the message has the preamble's spaces, the format's specifiers are all known,
and the year and the hour the code separates the timestamp into are ones the format writes. The
year is the UTC year, as a `short` holds it; the hour is the UTC hour, but where the day count
wraps before 1970 a negative one (`separate_hour`). -/
theorem insertFormattedTimestamp_ok_iff (p : TimestampPattern) (t : Int) (c : List Char) :
    (∃ m, p.insertFormattedTimestamp t c = .ok m) ↔
      p.numSpacesBeforeTs.toNat ≤ c.count ' ' ∧
        (∀ ch, FormatToken.specifier ch ∈ tokenize p.format.toList →
          (Specifier.ofChar ch).isSome) ∧
        p.YearWritable (TimestampFields.separate t).year ∧
        p.HourWritable (TimestampFields.separate t).hour := by
  rcases Nat.lt_or_ge (c.count ' ') p.numSpacesBeforeTs.toNat with hc | hc
  · rw [insertFormattedTimestamp_of_count_lt hc]
    exact ⟨fun ⟨_, h⟩ => (by cases h), fun h => absurd h.1 (by omega)⟩
  · obtain ⟨b, hfind, -⟩ := findTimestampBegin_of_le_count hc
    rw [insertFormattedTimestamp_eq hfind, ← all_writes_iff,
      ← formatTokens_ok_iff (separate_separated t) _ []]
    cases formatTokens (TimestampFields.separate t) (tokenize p.format.toList) [] <;>
      simp [Except.map, hc]

example : (⟨0, "%y/%m/%d %H:%M:%S"⟩ : TimestampPattern).insertFormattedTimestamp (-2366841600000) [] =
    .ok "-6/12/31 00:00:00".toList := by
  decide

/-- At UTC year 67551 the code writes the year 2015, as a `short` holds it. -/
example : (⟨0, "%Y-%m-%d %H:%M:%S"⟩ : TimestampPattern).insertFormattedTimestamp
    2069536435200000 [] = .ok "2015-01-01 00:00:00".toList := by
  decide

/-- Where the day count wraps before 1970, the code's hour at 11:00 UTC is `-11`. -/
example : (⟨0, "%H:%M"⟩ : TimestampPattern).insertFormattedTimestamp (-278313880827600000) [] =
    .error .lengthError := by
  decide

/-- The formats of the catalog name only specifiers the `switch` knows. -/
theorem init_specifiers_known : ∀ p ∈ TimestampPattern.init, ∀ ch,
    FormatToken.specifier ch ∈ tokenize p.format.toList → (Specifier.ofChar ch).isSome :=
  fun p hp _ h => wellFormed_supported (wellFormed_init p hp) _ h

end ClpCore
