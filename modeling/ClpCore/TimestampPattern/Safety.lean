import ClpCore.TimestampPattern.Tokens

/-!
# `parse_timestamp` stays inside the line

Every read of the line in the model goes through `charAt` (for `line[ix]`) or `compareEq` (for
`std::string::compare`), and those fail exactly where the C++ would read past the end. This file
shows that `parse_timestamp` never fails that way, for every pattern and every line, and that a
match it reports is well formed: the begin position comes right after the pattern's last
preamble space and the end position does not pass the end of the line.

## Main definitions

- `IsTimestampMatch` — the shape of a reported match

## Main results

- `parseTokens_ok` — the run lemma of the format loop: no failed read and a position that only
  moves forward within the line
- `findTimestampBegin_spec` — what the preamble loop computes
- `parseTimestamp_stays_in_line` — the safety theorem for `parse_timestamp` and for
  `search_known_ts_patterns`
-/

namespace ClpCore

/-- A match reported on `line` by a pattern whose timestamp follows `numSpaces` spaces: the begin
position follows exactly `numSpaces` spaces, the last of them just before it, and the end position
lies between the begin position and the end of the line. -/
def IsTimestampMatch (numSpaces : Nat) (line : List Char) (beginPos endPos : Nat) : Prop :=
  beginPos ≤ endPos ∧ endPos ≤ line.length ∧ (line.take beginPos).count ' ' = numSpaces ∧
    (0 < numSpaces → line.get? (beginPos - 1) = some ' ')

/-- A parse result that, where it is a success, ends between `lineIx` and the end of the line. -/
def EndsWithin (line : List Char) (lineIx : Nat) (r : Option (Nat × ParsedFields)) : Prop :=
  ∀ p ∈ r, lineIx ≤ p.1 ∧ p.1 ≤ line.length

@[simp] theorem endsWithin_none (line : List Char) (lineIx : Nat) :
    EndsWithin line lineIx none := by simp [EndsWithin]

@[simp] theorem endsWithin_some (line : List Char) (lineIx j : Nat) (f : ParsedFields) :
    EndsWithin line lineIx (some (j, f)) ↔ lineIx ≤ j ∧ j ≤ line.length := by
  simp [EndsWithin]

-- ════════════════════════════════════════════════════════════════════════
-- Reads
-- ════════════════════════════════════════════════════════════════════════

theorem charAt_of_lt {l : List Char} {ix : Nat} (h : ix < l.length) : charAt l ix = .ok l[ix] := by
  simp [charAt, h]

theorem compareEq_of_le {line : List Char} {pos : Nat} (len : Nat) (s : List Char)
    (h : pos ≤ line.length) : compareEq line pos len s = .ok ((line.drop pos).take len == s) := by
  simp [compareEq, Nat.not_lt.mpr h]

/-- A successful compare fits in the line. -/
theorem length_le_of_compareEq {line s : List Char} {pos n : Nat} (hpos : pos ≤ line.length)
    (h : ((line.drop pos).take n == s) = true) : pos + s.length ≤ line.length := by
  have := congrArg List.length (beq_iff_eq.mp h)
  simp only [List.length_take, List.length_drop] at this
  omega

theorem skipPadding_ok (str : List Char) (pad : Char) :
    ∀ n ix, ix + n ≤ str.length → ∃ ix', skipPadding str pad n ix = .ok ix' ∧ ix ≤ ix' ∧ ix' ≤ ix + n
  | 0, ix, _ => ⟨ix, rfl, le_refl _, by omega⟩
  | n + 1, ix, h => by
    simp only [skipPadding, charAt_of_lt (by omega : ix < str.length), except_ok_bind]
    split
    · obtain ⟨ix', h1, h2, h3⟩ := skipPadding_ok str pad n (ix + 1) (by omega)
      exact ⟨ix', h1, by omega, by omega⟩
    · exact ⟨ix, rfl, le_refl _, by omega⟩

theorem accumulateDigits_ok (str : List Char) :
    ∀ n ix value, ix + n ≤ str.length → ∃ r, accumulateDigits str n ix value = .ok r
  | 0, _, _, _ => ⟨_, rfl⟩
  | n + 1, ix, value, h => by
    simp only [accumulateDigits, charAt_of_lt (by omega : ix < str.length), except_ok_bind]
    split
    · exact ⟨_, rfl⟩
    · exact accumulateDigits_ok str n (ix + 1) _ (by omega)

theorem convertStringToNumber_ok (str : List Char) {beginIx endIx : Nat} (pad : Char)
    (h1 : beginIx ≤ endIx) (h2 : endIx ≤ str.length) :
    ∃ r, convertStringToNumber str beginIx endIx pad = .ok r := by
  obtain ⟨ix, hix, h3, h4⟩ := skipPadding_ok str pad (endIx - beginIx) beginIx (by omega)
  simp only [convertStringToNumber, hix, except_ok_bind]
  exact accumulateDigits_ok str _ _ _ (by omega)

theorem parseNumericField_ok (line : List Char) (lineIx w : Nat) (pad : Char) (lo hi : Nat) :
    ∃ r, parseNumericField line lineIx w pad lo hi = .ok r ∧ ∀ v ∈ r, lineIx + w ≤ line.length := by
  unfold parseNumericField
  split
  · exact ⟨none, rfl, by simp⟩
  · obtain ⟨r, hr⟩ := convertStringToNumber_ok line pad (Nat.le_add_right lineIx w)
      (by omega)
    rw [hr, except_ok_bind]
    cases r with
    | none => exact ⟨none, rfl, by simp⟩
    | some v => exact ⟨_, rfl, fun _ _ => by omega⟩

theorem matchName_ok {line : List Char} {lineIx : Nat} (h : lineIx ≤ line.length) :
    ∀ names ix, ∃ r, matchName line lineIx names ix = .ok r ∧
      ∀ p ∈ r, lineIx ≤ p.2 ∧ p.2 ≤ line.length
  | [], _ => ⟨none, rfl, by simp⟩
  | name :: names, ix => by
    simp only [matchName, compareEq_of_le _ _ h, except_ok_bind]
    split
    · next hc =>
      have : lineIx + name.length ≤ line.length := length_le_of_compareEq h hc
      exact ⟨_, rfl, by simp only [Option.mem_def, Option.some.injEq]; rintro _ rfl; simp; omega⟩
    · exact matchName_ok h names (ix + 1)

-- ════════════════════════════════════════════════════════════════════════
-- Specifiers and the format loop
-- ════════════════════════════════════════════════════════════════════════

theorem parseNumericSpecifier_ok (line : List Char) (lineIx w : Nat) (pad : Char) (lo hi : Nat)
    (set : Nat → ParsedFields) : ∃ r, parseNumericSpecifier line lineIx w pad lo hi set = .ok r ∧
      EndsWithin line lineIx r := by
  obtain ⟨r, hr, hw⟩ := parseNumericField_ok line lineIx w pad lo hi
  simp only [parseNumericSpecifier, hr, except_ok_bind]
  cases r with
  | none => exact ⟨none, rfl, by simp⟩
  | some v => exact ⟨_, rfl, by simp [hw v rfl]⟩

theorem parseNameSpecifier_ok {line : List Char} {lineIx : Nat} (h : lineIx ≤ line.length)
    (names : List String) (set : Nat → ParsedFields) :
    ∃ r, parseNameSpecifier line lineIx names set = .ok r ∧ EndsWithin line lineIx r := by
  obtain ⟨r, hr, hw⟩ := matchName_ok h names 0
  simp only [parseNameSpecifier, hr, except_ok_bind]
  cases r with
  | none => exact ⟨none, rfl, by simp⟩
  | some p => exact ⟨_, rfl, by simpa using hw p rfl⟩

theorem parsePartOfDay_ok {line : List Char} {lineIx : Nat} (h : lineIx ≤ line.length)
    (f : ParsedFields) : ∃ r, parsePartOfDay line lineIx f = .ok r ∧ EndsWithin line lineIx r := by
  simp only [parsePartOfDay, compareEq_of_le _ _ h, except_ok_bind]
  split
  · next hc => exact ⟨_, rfl, by simpa using length_le_of_compareEq h hc⟩
  · split
    · next hc => exact ⟨_, rfl, by simpa using length_le_of_compareEq h hc⟩
    · exact ⟨none, rfl, by simp⟩

/-- **Step lemma**: one specifier read inside the line does not fail and does not move back or
past the end. -/
theorem parseSpecifier_ok {line : List Char} {lineIx : Nat} (h : lineIx < line.length)
    (f : ParsedFields) (c : Char) :
    ∃ r, parseSpecifier line lineIx f c = .ok r ∧ EndsWithin line lineIx r := by
  unfold parseSpecifier
  split
  · simp only [charAt_of_lt h, except_ok_bind]
    split
    · exact ⟨none, rfl, by simp⟩
    · exact ⟨_, rfl, by simp; omega⟩
  all_goals first
    | exact parseNumericSpecifier_ok _ _ _ _ _ _ _
    | exact parseNameSpecifier_ok h.le _ _
    | exact parsePartOfDay_ok h.le _
    | exact ⟨none, rfl, by simp⟩

theorem parseToken_ok {line : List Char} {lineIx : Nat} (h : lineIx < line.length)
    (f : ParsedFields) : ∀ tok, ∃ r, parseToken line lineIx f tok = .ok r ∧ EndsWithin line lineIx r
  | .literal c => by
    simp only [parseToken, charAt_of_lt h, except_ok_bind]
    split
    · exact ⟨none, rfl, by simp⟩
    · exact ⟨_, rfl, by simp; omega⟩
  | .specifier c => parseSpecifier_ok h f c
  | .danglingPercent => ⟨_, rfl, by simp; omega⟩

/-- **Run lemma** of the format loop: from a position inside the line, the loop over any tokens
never reads past the line and ends between its start and the end of the line. -/
theorem parseTokens_ok (line : List Char) :
    ∀ toks lineIx f, lineIx ≤ line.length →
      ∃ r, parseTokens line toks lineIx f = .ok r ∧ EndsWithin line lineIx r
  | [], lineIx, f, h => ⟨_, rfl, by simp [h]⟩
  | tok :: toks, lineIx, f, h => by
    simp only [parseTokens]
    split
    · next hlt =>
      obtain ⟨r, hr, hw⟩ := parseToken_ok hlt f tok
      rw [hr, except_ok_bind]
      rcases r with _ | ⟨j, f'⟩
      · exact ⟨none, rfl, by simp⟩
      · obtain ⟨h1, h2⟩ := (endsWithin_some _ _ _ _).mp hw
        obtain ⟨r', hr', hw'⟩ := parseTokens_ok line toks j f' h2
        exact ⟨r', hr', fun p hp => ⟨le_trans h1 (hw' p hp).1, (hw' p hp).2⟩⟩
    · exact ⟨none, rfl, by simp⟩

-- ════════════════════════════════════════════════════════════════════════
-- The preamble loop
-- ════════════════════════════════════════════════════════════════════════

/-- What the preamble loop computes, from any state where it has found at most `numSpaces`
spaces and, if exactly that many, has just passed the last of them. -/
theorem findTimestampBegin_spec (str : List Char) (numSpaces : Nat) :
    ∀ n ix found, ix + n = str.length → found = (str.take ix).count ' ' →
      (found < numSpaces ∨ found = numSpaces ∧ (0 < numSpaces → str.get? (ix - 1) = some ' ')) →
      ∃ ix' found', findTimestampBegin str numSpaces n ix found = .ok (ix', found') ∧
        ix' ≤ str.length ∧ found' = (str.take ix').count ' ' ∧ found' ≤ numSpaces ∧
        (found' < numSpaces → ix' = str.length) ∧
        (found' = numSpaces → 0 < numSpaces → str.get? (ix' - 1) = some ' ')
  | 0, ix, found, hn, hf, hinv => ⟨ix, found, rfl, by omega, hf, by omega, by omega,
      fun he => by rcases hinv with h | ⟨-, h⟩ <;> [omega; exact h]⟩
  | n + 1, ix, found, hn, hf, hinv => by
    simp only [findTimestampBegin]
    split
    · next hlt =>
      have hix : ix < str.length := by omega
      simp only [charAt_of_lt hix, except_ok_bind]
      have hcount : (str.take (ix + 1)).count ' ' = if ' ' = str[ix] then found + 1 else found := by
        rw [List.take_succ, List.count_append, ← hf, List.getElem?_eq_getElem hix]
        rcases eq_or_ne str[ix] ' ' with hc | hc
        · simp [hc]
        · simp [hc, Ne.symm hc]
      apply findTimestampBegin_spec str numSpaces n (ix + 1) _ (by omega) hcount.symm
      split
      · next hc =>
        rcases Nat.lt_or_ge (found + 1) numSpaces with h | h
        · exact .inl h
        · exact .inr ⟨by omega, fun _ => by simp [List.get?_eq_getElem?, hix, hc.symm]⟩
      · exact .inl hlt
    · next hge =>
      rcases hinv with h | ⟨rfl, h⟩
      · omega
      · exact ⟨ix, found, rfl, by omega, hf, le_refl _, by omega, fun _ => h⟩

-- ════════════════════════════════════════════════════════════════════════
-- parse_timestamp and search_known_ts_patterns
-- ════════════════════════════════════════════════════════════════════════

theorem parseTimestamp_ok (p : TimestampPattern) (line : List Char) :
    ∃ r, p.parseTimestamp line = .ok r ∧ ∀ pt ∈ r,
      IsTimestampMatch p.numSpacesBeforeTs.toNat line pt.timestampBeginPos pt.timestampEndPos := by
  obtain ⟨b, found, hfind, hb, hcount, -, -, hspace⟩ :=
    findTimestampBegin_spec line p.numSpacesBeforeTs.toNat line.length 0 0 (by simp) (by simp)
      (by rcases Nat.eq_zero_or_pos p.numSpacesBeforeTs.toNat with h | h <;> simp [h])
  simp only [TimestampPattern.parseTimestamp, hfind, except_ok_bind]
  split
  · exact ⟨none, rfl, by simp⟩
  · next hnot =>
    have hfound : found = p.numSpacesBeforeTs.toNat := by
      have := findTimestampBegin_spec line p.numSpacesBeforeTs.toNat line.length 0 0 (by simp)
        (by simp) (by rcases Nat.eq_zero_or_pos p.numSpacesBeforeTs.toNat with h | h <;> simp [h])
      obtain ⟨_, _, h1, -, -, h2, -, -⟩ := this
      rw [hfind] at h1
      cases h1
      omega
    obtain ⟨r, hr, hw⟩ := parseTokens_ok line (tokenize p.format.toList) b {} hb
    rw [parseFormat_eq_parseTokens, hr, except_ok_bind]
    rcases r with _ | ⟨e, f⟩
    · exact ⟨none, rfl, by simp⟩
    · obtain ⟨h1, h2⟩ := (endsWithin_some _ _ _ _).mp hw
      simp only
      split
      · exact ⟨none, rfl, by simp⟩
      · refine ⟨_, rfl, ?_⟩
        simp only [Option.mem_def, Option.some.injEq]
        rintro _ rfl
        exact ⟨h1, h2, hcount ▸ hfound, hspace hfound⟩

theorem searchKnownTsPatterns_ok (line : List Char) (timestamp : Int) :
    ∀ knownTsPatterns : List TimestampPattern,
      ∃ res, searchKnownTsPatterns knownTsPatterns line timestamp = .ok res ∧
        (res.pattern = none ∧ res.timestampBeginPos = npos ∧ res.timestampEndPos = npos ∨
          ∃ q ∈ knownTsPatterns, res.pattern = some q ∧
            IsTimestampMatch q.numSpacesBeforeTs.toNat line res.timestampBeginPos res.timestampEndPos)
  | [] => ⟨_, rfl, .inl ⟨rfl, rfl, rfl⟩⟩
  | q :: qs => by
    obtain ⟨r, hr, hw⟩ := parseTimestamp_ok q line
    simp only [searchKnownTsPatterns, hr, except_ok_bind]
    cases r with
    | some pt => exact ⟨_, rfl, .inr ⟨q, List.mem_cons_self _ _, rfl, hw pt rfl⟩⟩
    | none =>
      obtain ⟨res, hres, h⟩ := searchKnownTsPatterns_ok line timestamp qs
      refine ⟨res, hres, h.imp_right ?_⟩
      rintro ⟨q', hq', h'⟩
      exact ⟨q', List.mem_cons_of_mem _ hq', h'⟩

/-- **`parse_timestamp` stays inside the line.** For every pattern (any number of preamble
spaces, any format) and every line, the parse never reads past the line, and a match it reports
begins right after the pattern's preamble spaces and ends within the line; so
`search_known_ts_patterns`, over any list of patterns, returns either one of them with such a
match or no pattern with both positions set to `npos`. -/
theorem parseTimestamp_stays_in_line (line : List Char) :
    (∀ p : TimestampPattern, ∃ r, p.parseTimestamp line = .ok r ∧ ∀ pt ∈ r,
      IsTimestampMatch p.numSpacesBeforeTs.toNat line pt.timestampBeginPos pt.timestampEndPos) ∧
    ∀ (knownTsPatterns : List TimestampPattern) (timestamp : Int),
      ∃ res, searchKnownTsPatterns knownTsPatterns line timestamp = .ok res ∧
        (res.pattern = none ∧ res.timestampBeginPos = npos ∧ res.timestampEndPos = npos ∨
          ∃ q ∈ knownTsPatterns, res.pattern = some q ∧
            IsTimestampMatch q.numSpacesBeforeTs.toNat line res.timestampBeginPos res.timestampEndPos) :=
  ⟨fun p => parseTimestamp_ok p line, fun ps t => searchKnownTsPatterns_ok line t ps⟩

end ClpCore
