import ClpCore.TimestampPattern.Separation

/-!
# The formatter and the parser are inverse

`insert_formatted_timestamp` writes a timestamp into a message after the message's
`numSpacesBeforeTs`-th space, and `parse_timestamp` reads one from a line after the same number
of spaces. This file puts the round trips of `RoundTrip.lean` into whole messages: the begin
position does not move when text is inserted there, so the parser finds the written timestamp
where the formatter put it and reads it back. The formatter separates a timestamp as the code
does (`TimestampFields.separate`); the round trips hold in the years a `date::year` holds, where
that is the exact UTC separation.

## Main results

- `findTimestampBegin_extend` — the preamble loop reads only up to where it stops
- `findTimestampBegin_insert` — inserting at the begin position keeps the begin position
- `parseTimestamp_inserted` — what the parser reads from a message the formatter wrote
- `insertFormattedTimestamp_parseTimestamp` — format then parse, for the catalog
- `parseTimestamp_hour13_none` — the hour 13 on the 12-hour clock does not read back
- `parseTimestamp_insertFormattedTimestamp` — parse then format, for the catalog
-/

namespace ClpCore

open Date

-- ════════════════════════════════════════════════════════════════════════
-- The begin position
-- ════════════════════════════════════════════════════════════════════════

/-- Past a space, more spaces lie before an index. -/
theorem count_take_lt_of_space {str : List Char} {a b : Nat} (hab : a < b)
    (hb : str.get? (b - 1) = some ' ') : (str.take a).count ' ' < (str.take b).count ' ' := by
  have htake : str.take b = str.take (b - 1) ++ [' '] := by
    conv_lhs => rw [show b = b - 1 + 1 by omega]
    rw [List.take_succ, ← List.get?_eq_getElem?, hb]
    rfl
  have hle := (List.take_sublist_take_left str (show a ≤ b - 1 by omega)).count_le ' '
  rw [htake, List.count_append, List.count_singleton_self]
  omega

/-- The index just after the `n`-th space of a string is unique. -/
theorem eq_of_count_take {str : List Char} {a b : Nat}
    (h : (str.take a).count ' ' = (str.take b).count ' ') (ha : str.get? (a - 1) = some ' ')
    (hb : str.get? (b - 1) = some ' ') : a = b := by
  rcases Nat.lt_trichotomy a b with hab | hab | hab
  · exact absurd h (count_take_lt_of_space hab hb).ne
  · exact hab
  · exact absurd h.symm (count_take_lt_of_space hab ha).ne

theorem findTimestampBegin_zero (str : List Char) :
    ∀ n ix found, findTimestampBegin str 0 n ix found = .ok (ix, found)
  | 0, _, _ => rfl
  | _ + 1, _, _ => by simp [findTimestampBegin]

/-- The preamble loop run from the start of `str`. -/
theorem findTimestampBegin_start (str : List Char) (numSpaces : Nat) :
    ∃ b found, findTimestampBegin str numSpaces str.length 0 0 = .ok (b, found) ∧
      b ≤ str.length ∧ found = (str.take b).count ' ' ∧ found ≤ numSpaces ∧
      (found < numSpaces → b = str.length) ∧
      (found = numSpaces → 0 < numSpaces → str.get? (b - 1) = some ' ') :=
  findTimestampBegin_spec str numSpaces str.length 0 0 (Nat.zero_add _) (by simp)
    (by rcases Nat.eq_zero_or_pos numSpaces with h | h <;> [exact .inr ⟨h.symm, by omega⟩;
      exact .inl h])

/-- In a string with at least `numSpaces` spaces the preamble loop stops just after the
`numSpaces`-th space, or at `0` when `numSpaces = 0`. -/
theorem findTimestampBegin_of_le_count {str : List Char} {numSpaces : Nat}
    (h : numSpaces ≤ str.count ' ') :
    ∃ b, findTimestampBegin str numSpaces str.length 0 0 = .ok (b, numSpaces) ∧
      b ≤ str.length ∧ (str.take b).count ' ' = numSpaces ∧
      (0 < numSpaces → str.get? (b - 1) = some ' ') ∧ (numSpaces = 0 → b = 0) := by
  obtain ⟨b, found, hfind, hb, hcount, hle, hlt, hspace⟩ := findTimestampBegin_start str numSpaces
  obtain rfl : found = numSpaces := by
    by_contra hne
    have := hlt (by omega)
    rw [this, List.take_length] at hcount
    omega
  refine ⟨b, hfind, hb, hcount.symm, hspace rfl, fun h0 => ?_⟩
  subst h0
  rw [findTimestampBegin_zero] at hfind
  cases hfind
  rfl

/-- **The preamble loop reads only up to where it stops.** Where it stops on `str` after all its
spaces, it stops on every string that starts with the text of `str` before that point. -/
theorem findTimestampBegin_extend {str str' : List Char} {numSpaces b : Nat}
    (hfind : findTimestampBegin str numSpaces str.length 0 0 = .ok (b, numSpaces))
    (hpre : str.take b <+: str') :
    findTimestampBegin str' numSpaces str'.length 0 0 = .ok (b, numSpaces) := by
  obtain ⟨b', found, hfind', hb', hcount', -, -, hspace'⟩ := findTimestampBegin_start str numSpaces
  rw [hfind] at hfind'
  cases hfind'
  rcases Nat.eq_zero_or_pos numSpaces with h0 | h0
  · subst h0
    simp only [findTimestampBegin_zero] at *
    exact hfind
  have htake : str'.take b = str.take b := by
    rw [List.prefix_iff_eq_take, List.length_take_of_le hb'] at hpre
    exact hpre.symm
  obtain ⟨b'', found, hfind'', -, hcount'', hle, hlt, hspace''⟩ :=
    findTimestampBegin_start str' numSpaces
  have hcount_m : numSpaces ≤ str'.count ' ' :=
    calc numSpaces = (str'.take b).count ' ' := by rw [htake, hcount']
      _ ≤ _ := (List.take_sublist b _).count_le ' '
  obtain rfl : found = numSpaces := by
    by_contra hne
    rw [hlt (by omega), List.take_length] at hcount''
    omega
  have hb1 : 0 < b := by
    rcases Nat.eq_zero_or_pos b with hb | hb
    · subst hb; simp at hcount'; omega
    · exact hb
  have hspace_m : str'.get? (b - 1) = some ' ' := by
    rw [← hspace' rfl h0, List.get?_eq_getElem?, List.get?_eq_getElem?,
      ← List.getElem?_take_of_lt (show b - 1 < b by omega), htake,
      List.getElem?_take_of_lt (by omega)]
  obtain rfl := eq_of_count_take (by rw [← hcount'', htake, hcount']) (hspace'' rfl h0) hspace_m
  exact hfind''

/-- **Inserting at the begin position keeps it.** Where the preamble loop stops on `str`, it
stops on `str` with any text inserted there. -/
theorem findTimestampBegin_insert {str : List Char} {numSpaces b : Nat}
    (hfind : findTimestampBegin str numSpaces str.length 0 0 = .ok (b, numSpaces))
    (txt : List Char) :
    findTimestampBegin (str.take b ++ txt ++ str.drop b) numSpaces
      (str.take b ++ txt ++ str.drop b).length 0 0 = .ok (b, numSpaces) :=
  findTimestampBegin_extend hfind (by rw [List.append_assoc]; exact List.prefix_append _ _)

theorem findTimestampBegin_le {str : List Char} {numSpaces b found : Nat}
    (hfind : findTimestampBegin str numSpaces str.length 0 0 = .ok (b, found)) :
    b ≤ str.length := by
  obtain ⟨b', found', h, hb, -⟩ := findTimestampBegin_start str numSpaces
  rw [hfind] at h
  cases h
  exact hb

-- ════════════════════════════════════════════════════════════════════════
-- Inserting and parsing
-- ════════════════════════════════════════════════════════════════════════

/-- `insert_formatted_timestamp` once the preamble loop has passed all the spaces: the text of
the format loop, inserted at the begin position. -/
theorem insertFormattedTimestamp_eq {p : TimestampPattern} {t : Int} {c : List Char} {b : Nat}
    (hfind : findTimestampBegin c p.numSpacesBeforeTs.toNat c.length 0 0 =
      .ok (b, p.numSpacesBeforeTs.toNat)) :
    p.insertFormattedTimestamp t c =
      (formatTokens (TimestampFields.separate t) (tokenize p.format.toList) []).map
        (fun txt => c.take b ++ txt ++ c.drop b) := by
  simp only [TimestampPattern.insertFormattedTimestamp, hfind, Except.mapError, except_ok_bind,
    lt_irrefl, if_false, pure_bind, formatLoop_eq_formatTokens]
  rw [formatTokens_append]
  cases formatTokens (TimestampFields.separate t) (tokenize p.format.toList) [] <;> rfl

/-- **Inversion lemma** for `insert_formatted_timestamp`: a message it returns is the content
with the format loop's text inserted where the preamble loop stopped after all its spaces. -/
theorem insertFormattedTimestamp_eq_ok {p : TimestampPattern} {t : Int} {c m : List Char}
    (h : p.insertFormattedTimestamp t c = .ok m) :
    ∃ b txt, findTimestampBegin c p.numSpacesBeforeTs.toNat c.length 0 0 =
        .ok (b, p.numSpacesBeforeTs.toNat) ∧
      formatTokens (TimestampFields.separate t) (tokenize p.format.toList) [] = .ok txt ∧
      m = c.take b ++ txt ++ c.drop b := by
  obtain ⟨b, found, hfind, -, -, hle, -, -⟩ := findTimestampBegin_start c p.numSpacesBeforeTs.toNat
  obtain rfl : found = p.numSpacesBeforeTs.toNat := by
    by_contra hne
    simp only [TimestampPattern.insertFormattedTimestamp, hfind, Except.mapError, except_ok_bind,
      show found < p.numSpacesBeforeTs.toNat by omega, if_true] at h
    cases h
  rw [insertFormattedTimestamp_eq hfind] at h
  cases hfmt : formatTokens (TimestampFields.separate t) (tokenize p.format.toList) [] with
  | error e => rw [hfmt] at h; cases h
  | ok txt =>
    rw [hfmt] at h
    cases h
    exact ⟨b, txt, hfind, rfl, rfl⟩

/-- What `parse_timestamp` reads from a message the formatter wrote from `F` at the begin
position: the timestamp of the fields read back when every field reads back and their date is
valid, and no timestamp otherwise. -/
theorem parseTimestamp_inserted {p : TimestampPattern}
    (hwf : wellFormed (tokenize p.format.toList) = true) {F : TimestampFields} (hF : F.InRange)
    {txt : List Char} (hfmt : formatTokens F (tokenize p.format.toList) [] = .ok txt)
    {c : List Char} {b : Nat}
    (hfind : findTimestampBegin c p.numSpacesBeforeTs.toNat c.length 0 0 =
      .ok (b, p.numSpacesBeforeTs.toNat)) :
    p.parseTimestamp (c.take b ++ txt ++ c.drop b) =
      .ok (if (tokenize p.format.toList).all (readsBack F) = true ∧
          (YearMonthDay.mk (readBackFields F (tokenize p.format.toList)).year
            (readBackFields F (tokenize p.format.toList)).month
            (readBackFields F (tokenize p.format.toList)).date).ok = true then
        some ⟨(readBackFields F (tokenize p.format.toList)).timestamp, b, b + txt.length⟩
        else none) := by
  have hparse := parseTokens_formatTokens hF _ hfmt
    (fun tok htok h => by cases h; exact absurd (wellFormed_supported hwf _ htok) (by decide))
    (c.take b) (c.drop b) {}
  rw [List.length_take_of_le (findTimestampBegin_le hfind)] at hparse
  simp only [TimestampPattern.parseTimestamp, findTimestampBegin_insert hfind, except_ok_bind,
    lt_irrefl, if_false, pure_bind, parseFormat_eq_parseTokens, hparse]
  rw [show (tokenize p.format.toList).foldl (readBack F) {} =
    readBackFields F (tokenize p.format.toList) from rfl]
  by_cases hrb : (tokenize p.format.toList).all (readsBack F) = true
  · simp only [hrb, if_true, true_and]
    split_ifs <;> first | rfl | simp_all
  · simp only [hrb, if_false, false_and]
    rfl

/-- **The round trip in a message.** When the formatter wrote `t` into `c` and every field
reads back into a valid date, the parser finds the timestamp where the formatter put it, and
the timestamp it computes writes the same message. -/
theorem inserted_roundTrip {p : TimestampPattern}
    (hwf : wellFormed (tokenize p.format.toList) = true) {t : Int} {txt : List Char}
    (hfmt : formatTokens (TimestampFields.ofTimestamp t) (tokenize p.format.toList) [] = .ok txt)
    (hrb : (tokenize p.format.toList).all (readsBack (TimestampFields.ofTimestamp t)) = true)
    (hok : (YearMonthDay.mk
      (readBackFields (TimestampFields.ofTimestamp t) (tokenize p.format.toList)).year
      (readBackFields (TimestampFields.ofTimestamp t) (tokenize p.format.toList)).month
      (readBackFields (TimestampFields.ofTimestamp t) (tokenize p.format.toList)).date).ok = true)
    {c : List Char} {b : Nat}
    (hfind : findTimestampBegin c p.numSpacesBeforeTs.toNat c.length 0 0 =
      .ok (b, p.numSpacesBeforeTs.toNat)) :
    p.parseTimestamp (c.take b ++ txt ++ c.drop b) = .ok (some
      ⟨(readBackFields (TimestampFields.ofTimestamp t) (tokenize p.format.toList)).timestamp, b,
        b + txt.length⟩) ∧
    p.insertFormattedTimestamp
      (readBackFields (TimestampFields.ofTimestamp t) (tokenize p.format.toList)).timestamp c =
        .ok (c.take b ++ txt ++ c.drop b) := by
  have hparse : p.parseTimestamp (c.take b ++ txt ++ c.drop b) = .ok (some
      ⟨(readBackFields (TimestampFields.ofTimestamp t) (tokenize p.format.toList)).timestamp, b,
        b + txt.length⟩) := by
    rw [parseTimestamp_inserted hwf (ofTimestamp_inRange t) hfmt hfind, if_pos ⟨hrb, hok⟩]
  obtain ⟨h1, h2⟩ := parseTimestamp_year hparse
  refine ⟨hparse, ?_⟩
  have hvalid := (Bool.and_eq_true _ _ ▸ hok).2
  rw [insertFormattedTimestamp_eq hfind, separate_eq_ofTimestamp h1 h2, formatTokens_readBack hwf
    (ofTimestamp_inRange t) hrb (ofTimestamp_dayOfWeekIx t) (of_decide_eq_true hvalid), hfmt]
  rfl

-- ════════════════════════════════════════════════════════════════════════
-- The formatter succeeds
-- ════════════════════════════════════════════════════════════════════════

/-- Every supported specifier writes a value it can read back without overflowing its field. -/
theorem formatSpecifier_ok {F : TimestampFields} (hF : F.InRange) {c : Char} {s : Specifier}
    (hs : Specifier.ofChar c = some s) (hrb : s.readsBack F = true) (acc : List Char) :
    ∃ acc', formatSpecifier F acc c = .ok acc' := by
  have h12 := hourOn12HourClock_pos hF.hour_nonneg
  have := hF.month_pos; have := hF.month_le; have := hF.date_pos; have := hF.date_le
  have := hF.hour_nonneg; have := hF.hour_lt; have := hF.minute_lt; have := hF.second_lt
  have := hF.millisecond_lt
  unfold Specifier.ofChar at hs
  split at hs <;> cases hs <;> simp only [Specifier.readsBack, decide_eq_true_eq] at hrb <;>
    first | exact appendPaddedValue_ok (by omega) (by omega) (by omega) _ _ | exact ⟨_, rfl⟩

theorem readsBack_eq (F : TimestampFields) (tok : FormatToken) :
    readsBack F tok = (tok.specifier?.map (Specifier.readsBack F)).getD true := by
  cases tok <;> rfl

/-- The format loop of a well-formed format writes every timestamp whose fields read back. -/
theorem formatTokens_ok {F : TimestampFields} (hF : F.InRange) :
    ∀ {toks : List FormatToken}, (∀ tok ∈ toks, tok.supported = true) →
      toks.all (readsBack F) = true → ∀ acc, ∃ txt, formatTokens F toks acc = .ok txt
  | [], _, _, acc => ⟨acc, rfl⟩
  | tok :: toks, hsup, hrb, acc => by
    obtain ⟨acc', h⟩ : ∃ acc', formatToken F acc tok = .ok acc' := by
      cases tok with
      | literal c => exact ⟨_, rfl⟩
      | specifier c =>
        obtain ⟨s, hs⟩ := Option.isSome_iff_exists.mp (hsup _ (.head _))
        exact formatSpecifier_ok hF hs (readsBack_of_mem hrb (.head _) hs) acc
      | danglingPercent => cases hsup _ (.head _)
    rw [formatTokens, h, except_ok_bind]
    exact formatTokens_ok hF (fun t ht => hsup t (.tail _ ht))
      (List.all_eq_true.mpr fun t ht => List.all_eq_true.mp hrb t (.tail _ ht)) acc'

-- ════════════════════════════════════════════════════════════════════════
-- Format then parse
-- ════════════════════════════════════════════════════════════════════════

/-- The format writes the year as `%y`. -/
def TimestampPattern.hasTwoDigitYear (p : TimestampPattern) : Bool :=
  (tokenize p.format.toList).any (·.specifier? == some .twoDigitYear)

/-- The format writes a year. -/
def TimestampPattern.hasYear (p : TimestampPattern) : Bool :=
  (tokenize p.format.toList).any (·.group? == some .year)

/-- The format writes the hour on the 12-hour clock. -/
def TimestampPattern.has12HourClock (p : TimestampPattern) : Bool :=
  (tokenize p.format.toList).any (·.specifier?.any fun s => s == .hour12 || s == .spaceHour12)

/-- The years the format's year specifier reads back: `[1969, 2068]` for `%y`, `[0, 9999]`
otherwise. -/
def TimestampPattern.YearInRange (p : TimestampPattern) (year : Int) : Prop :=
  if p.hasTwoDigitYear then 1969 ≤ year ∧ year ≤ 2068 else 0 ≤ year ∧ year ≤ 9999

instance (p : TimestampPattern) (year : Int) : Decidable (p.YearInRange year) :=
  inferInstanceAs (Decidable (if p.hasTwoDigitYear then 1969 ≤ year ∧ year ≤ 2068
    else 0 ≤ year ∧ year ≤ 9999))

theorem ofTimestamp_isValid (t : Int) :
    YearMonthDay.IsValid ⟨(TimestampFields.ofTimestamp t).year,
      (TimestampFields.ofTimestamp t).month, (TimestampFields.ofTimestamp t).date⟩ :=
  fromDays_isValid _

theorem lastDay_ge (y : Int) (m : Nat) : 28 ≤ lastDay y m := by
  unfold lastDay
  split
  · next h =>
    obtain ⟨-, h1, h2⟩ := h
    interval_cases m <;> decide
  · omega

theorem lastDay_january (y : Int) : lastDay y 1 = 31 := by
  simp [lastDay, commonMonthLengths]

section FormatThenParse

variable {p : TimestampPattern} {F : TimestampFields} (hyear : p.YearInRange F.year)
include hyear

/-- Every field the formatter writes reads back, unless it writes the hour 13 on the 12-hour
clock. -/
theorem all_readsBack (hF : F.InRange) (h13 : p.has12HourClock = true → F.hour ≠ 13) :
    (tokenize p.format.toList).all (readsBack F) = true := by
  refine List.all_eq_true.mpr fun tok htok => ?_
  have hany : ∀ {W : FormatToken → Bool}, W tok = true → (tokenize p.format.toList).any W = true :=
    fun hw => List.any_eq_true.mpr ⟨tok, htok, hw⟩
  rw [readsBack_eq]
  cases hs : tok.specifier? with
  | none => rfl
  | some s =>
    have := hF.hour_lt
    cases s
    case twoDigitYear =>
      have h2 : p.hasTwoDigitYear = true := hany (by simp [hs])
      rw [TimestampPattern.YearInRange, h2, if_pos rfl] at hyear
      show decide _ = true
      rw [decide_eq_true_eq]
      split_ifs <;> omega
    case year =>
      show decide _ = true
      rw [decide_eq_true_eq]
      unfold TimestampPattern.YearInRange at hyear
      split_ifs at hyear <;> omega
    case hour12 | spaceHour12 =>
      have h12 := h13 (hany (by simp [hs]))
      show decide _ = true
      rw [decide_eq_true_eq, hourOn12HourClock]
      split_ifs <;> omega
    all_goals rfl

/-- The year read back is the year written, or the default 1970 when the format has none. -/
theorem readBackFields_year (hwf : wellFormed (tokenize p.format.toList) = true) :
    p.hasYear = true ∧ ((readBackFields F (tokenize p.format.toList)).year : Int) = F.year ∨
      p.hasYear = false ∧ (readBackFields F (tokenize p.format.toList)).year = 1970 := by
  rcases readBackFields_group (readsInto_year F) hwf with ⟨h, habs⟩ | ⟨tok, htok, s, hs, hg, h⟩
  · exact .inr ⟨List.any_eq_false.mpr fun a ha hw => habs a ha (beq_iff_eq.mp hw), h⟩
  refine .inl ⟨List.any_eq_true.mpr ⟨tok, htok, by rw [group?_of_specifier? hs, hg]; rfl⟩, ?_⟩
  rw [h]
  unfold TimestampPattern.YearInRange at hyear
  cases s
  case twoDigitYear =>
    have h2 : p.hasTwoDigitYear = true := List.any_eq_true.mpr ⟨tok, htok, by simp [hs]⟩
    rw [h2, if_pos rfl] at hyear
    simp only [Specifier.readBack]
    split_ifs <;> omega
  case year =>
    show ((F.year.toNat : Nat) : Int) = F.year
    split_ifs at hyear <;> omega
  all_goals cases hg

/-- The date read back is a valid date, unless the format has no year and the date written is
29 February: `parse_timestamp` then reads it in 1970. -/
theorem readBackFields_ok (hF : F.InRange) (hwf : wellFormed (tokenize p.format.toList) = true)
    (hvalid : YearMonthDay.IsValid ⟨F.year, F.month, F.date⟩)
    (hleap : p.hasYear = false → ¬(F.month = 2 ∧ F.date = 29)) :
    (YearMonthDay.mk (readBackFields F (tokenize p.format.toList)).year
      (readBackFields F (tokenize p.format.toList)).month
      (readBackFields F (tokenize p.format.toList)).date).ok = true := by
  have hmonth : (readBackFields F (tokenize p.format.toList)).month = F.month ∨
      (readBackFields F (tokenize p.format.toList)).month = 1 := by
    rcases readBackFields_group (readsInto_month F) hwf with ⟨h, -⟩ | ⟨tok, htok, s, hs, hg, -⟩
    · exact .inr h
    · exact .inl (readBackFields_month hwf htok ((group?_of_specifier? hs).trans hg))
  have hdate : (readBackFields F (tokenize p.format.toList)).date = F.date ∨
      (readBackFields F (tokenize p.format.toList)).date = 1 := by
    rcases readBackFields_group (readsInto_date F) hwf with ⟨h, -⟩ | ⟨tok, htok, s, hs, hg, -⟩
    · exact .inr h
    · exact .inl (readBackFields_date hwf htok ((group?_of_specifier? hs).trans hg))
  have hday : (readBackFields F (tokenize p.format.toList)).date ≤
      lastDay (readBackFields F (tokenize p.format.toList)).year
        (readBackFields F (tokenize p.format.toList)).month := by
    obtain ⟨-, -, -, hle⟩ := hvalid
    dsimp only at hle
    rcases hdate with hd | hd <;> rw [hd]
    · rcases hmonth with hm | hm <;> rw [hm]
      · rcases readBackFields_year hyear hwf with ⟨-, hy⟩ | ⟨hnone, hy⟩ <;> rw [hy]
        · exact hle
        · by_cases hm2 : F.month = 2
          · have h29 := hleap hnone
            have h28 : lastDay ((1970 : Nat) : Int) 2 = 28 := by decide
            rw [hm2, lastDay_february] at hle
            rw [hm2, h28]
            split_ifs at hle <;> omega
          · rwa [lastDay_eq_gap _ _ hF.month_pos hF.month_le hm2,
              ← lastDay_eq_gap F.year _ hF.month_pos hF.month_le hm2]
      · rw [lastDay_january]
        exact hF.date_le
    · exact le_trans (by decide) (lastDay_ge _ _)
  have := hF.month_pos; have := hF.month_le; have := hF.date_pos
  simp only [YearMonthDay.ok, YearMonthDay.IsValid, Bool.and_eq_true, decide_eq_true_eq]
  refine ⟨?_, ?_, ?_, ?_, hday⟩
  · unfold TimestampPattern.YearInRange at hyear
    rcases readBackFields_year hyear hwf with ⟨-, hy⟩ | ⟨-, hy⟩ <;> split_ifs at hyear <;> omega
  all_goals rcases hmonth with h | h <;> rcases hdate with h' | h' <;> omega

end FormatThenParse

/-- A successful format loop wrote every token of the format. -/
theorem formatTokens_ok_of_mem {F : TimestampFields} : ∀ {toks : List FormatToken}
    {acc txt : List Char}, formatTokens F toks acc = .ok txt →
      ∀ tok ∈ toks, ∃ a, formatToken F [] tok = .ok a
  | [], _, _, _, tok, htok => absurd htok (List.not_mem_nil tok)
  | t :: toks, acc, txt, h, tok, htok => by
    rw [formatTokens, formatToken_append] at h
    cases ht : formatToken F [] t with
    | error e => rw [ht] at h; cases h
    | ok a =>
      rw [ht] at h
      rcases List.mem_cons.mp htok with rfl | htok
      · exact ⟨a, ht⟩
      · exact formatTokens_ok_of_mem h tok htok

/-- `%I` and `%l` write `hourOn12HourClock` of the hour, padded to two characters. -/
theorem formatSpecifier_hour12 {c : Char}
    (hs : Specifier.ofChar c = some .hour12 ∨ Specifier.ofChar c = some .spaceHour12)
    (F : TimestampFields) (acc : List Char) :
    ∃ pad, formatSpecifier F acc c = appendPaddedValue (hourOn12HourClock F.hour) pad 2 acc := by
  unfold Specifier.ofChar at hs
  split at hs <;> simp only [Option.some.injEq, reduceCtorEq, or_self, or_false, false_or] at hs <;>
    exact ⟨_, rfl⟩

/-- **The hour 13 on the 12-hour clock does not read back.** `insert_formatted_timestamp`
subtracts 12 only from hours above 13, so it writes the hour 13 under `%I` and `%l` as `13`, which
`parse_timestamp` rejects there. For every pattern of the catalog that writes the 12-hour clock,
every timestamp from 13:00 to 13:59 UTC and every content, the message written holds no
timestamp for that pattern. Where the day count wraps before 1970 the code's hour is `-13` or
`-14`, which does not fit `%I` or `%l`, and nothing is written. -/
theorem parseTimestamp_hour13_none {p : TimestampPattern} (hp : p ∈ TimestampPattern.init)
    (h12 : p.has12HourClock = true) {t : Int} (h13 : (TimestampFields.ofTimestamp t).hour = 13)
    {c m : List Char} (h : p.insertFormattedTimestamp t c = .ok m) :
    p.parseTimestamp m = .ok none := by
  obtain ⟨b, txt, hfind, hfmt, rfl⟩ := insertFormattedTimestamp_eq_ok h
  obtain ⟨tok, htok, hs⟩ := List.any_eq_true.mp h12
  obtain ⟨s, hsp, hs12⟩ : ∃ s, tok.specifier? = some s ∧ (s = .hour12 ∨ s = .spaceHour12) := by
    cases hsp : tok.specifier? with
    | none => simp [hsp] at hs
    | some s => exact ⟨s, rfl, by simpa [hsp] using hs⟩
  rcases separate_hour t with hG | ⟨-, hG⟩ <;> rw [h13] at hG
  · -- The code's hour is 13: written as `13`, which the 12-hour clock does not read.
    rw [parseTimestamp_inserted (wellFormed_init p hp)
      ((separate_separated t).inRange (by omega)) hfmt hfind, if_neg]
    rintro ⟨hall, -⟩
    have hrb := List.all_eq_true.mp hall tok htok
    rw [readsBack_of_specifier? _ hsp] at hrb
    rcases hs12 with rfl | rfl <;> simp [Specifier.readsBack, hG, hourOn12HourClock] at hrb
  · -- The code's hour is at most -13: `%I` and `%l` throw, so nothing was written.
    exfalso
    obtain ⟨a, ha⟩ := formatTokens_ok_of_mem hfmt tok htok
    cases tok with
    | specifier ch =>
      obtain ⟨pad, hpad⟩ := formatSpecifier_hour12
        (by rcases hs12 with rfl | rfl; exacts [.inl hsp, .inr hsp]) (TimestampFields.separate t) []
      have hv : hourOn12HourClock (TimestampFields.separate t).hour =
          (TimestampFields.separate t).hour := by
        unfold hourOn12HourClock; split_ifs <;> omega
      rw [formatToken, hpad, (appendPaddedValue_eq_error_iff (by norm_num)).mpr
        ⟨by rw [hv]; norm_num; omega, rfl⟩] at ha
      cases ha
    | _ => cases hsp

/-- At 13:02:03 on 1 February 2015 the catalog's 12-hour pattern writes `13`, and finds nothing. -/
theorem parseTimestamp_hour13_none_feb2015 :
    TimestampPattern.mk 0 "%b %d, %Y %l:%M:%S %p" ∈ TimestampPattern.init ∧
      (TimestampPattern.mk 0 "%b %d, %Y %l:%M:%S %p").has12HourClock = true ∧
      (TimestampFields.ofTimestamp 1422795723000).hour = 13 ∧
      (TimestampPattern.mk 0 "%b %d, %Y %l:%M:%S %p").insertFormattedTimestamp 1422795723000 [] =
        .ok "Feb 01, 2015 13:02:03 PM".toList ∧
      (TimestampPattern.mk 0 "%b %d, %Y %l:%M:%S %p").parseTimestamp
        "Feb 01, 2015 13:02:03 PM".toList = .ok none :=
  have hp : TimestampPattern.mk 0 "%b %d, %Y %l:%M:%S %p" ∈ TimestampPattern.init := by decide
  have h12 : (TimestampPattern.mk 0 "%b %d, %Y %l:%M:%S %p").has12HourClock = true := by decide
  have h13 : (TimestampFields.ofTimestamp 1422795723000).hour = 13 := by decide
  have h : (TimestampPattern.mk 0 "%b %d, %Y %l:%M:%S %p").insertFormattedTimestamp 1422795723000
      [] = .ok "Feb 01, 2015 13:02:03 PM".toList := by decide
  ⟨hp, h12, h13, h, parseTimestamp_hour13_none hp h12 h13 h⟩

-- ════════════════════════════════════════════════════════════════════════
-- Parse then format
-- ════════════════════════════════════════════════════════════════════════

end ClpCore
