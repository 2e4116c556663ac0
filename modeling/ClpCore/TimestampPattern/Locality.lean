import ClpCore.TimestampPattern.LongestMatch
import ClpCore.TimestampPattern.Inverse

/-!
# A match depends only on its text

`parse_timestamp` reads the line from its start to the end of the timestamp it finds: the
preamble loop up to the begin position, then each specifier its own field. This file shows that
it reads nothing beyond: every line that starts with the same text up to the end of a match gives
the same match. The names of `%B`, `%b` and `%a` need an argument of their own, since the name
loop compares each name in turn and a name longer than the one found reads past it; the tables
are prefix-free, so such a name cannot match whatever follows.

## Main results

- `parseTokens_extend` — the format loop reads only the text it matches
- `parseTimestamp_extend` — a match depends only on the line up to its end
-/

namespace ClpCore

section Reads

variable {u x y : List Char}

/-- Text that ends within `u` does not depend on what follows `u`. -/
theorem take_drop_append_of_le {pos len : Nat} (h : pos + len ≤ u.length) (x : List Char) :
    ((u ++ x).drop pos).take len = (u.drop pos).take len := by
  rw [List.drop_append_of_le_length (by omega), List.take_append_of_le_length (by simp; omega)]

theorem charAt_append_of_lt {ix : Nat} (h : ix < u.length) :
    charAt (u ++ x) ix = charAt (u ++ y) ix := by
  simp only [charAt, List.get?_eq_getElem?, List.getElem?_append_left h]

theorem compareEq_append_of_le {pos len : Nat} (h : pos + len ≤ u.length) (s : List Char) :
    compareEq (u ++ x) pos len s = compareEq (u ++ y) pos len s := by
  simp only [compareEq, List.length_append, take_drop_append_of_le h]
  rw [if_neg (by omega), if_neg (by omega)]

/-- The two loops of `convert_string_to_number` read only the field. -/
theorem skipPadding_append (pad : Char) : ∀ n ix, ix + n ≤ u.length →
    skipPadding (u ++ x) pad n ix = skipPadding (u ++ y) pad n ix
  | 0, _, _ => rfl
  | n + 1, ix, h => by
    simp only [skipPadding, charAt_append_of_lt (x := x) (y := y) (show ix < u.length by omega)]
    congr 1
    funext c
    split
    · exact skipPadding_append pad n (ix + 1) (by omega)
    · rfl

theorem accumulateDigits_append : ∀ n ix value, ix + n ≤ u.length →
    accumulateDigits (u ++ x) n ix value = accumulateDigits (u ++ y) n ix value
  | 0, _, _, _ => rfl
  | n + 1, ix, value, h => by
    simp only [accumulateDigits,
      charAt_append_of_lt (x := x) (y := y) (show ix < u.length by omega)]
    congr 1
    funext c
    split
    · rfl
    · exact accumulateDigits_append n (ix + 1) _ (by omega)

theorem convertStringToNumber_append {beginIx endIx : Nat} (hle : beginIx ≤ endIx)
    (h : endIx ≤ u.length) (pad : Char) :
    convertStringToNumber (u ++ x) beginIx endIx pad =
      convertStringToNumber (u ++ y) beginIx endIx pad := by
  simp only [convertStringToNumber,
    skipPadding_append (u := u) (x := x) (y := y) pad (endIx - beginIx) beginIx (by omega)]
  cases hs : skipPadding (u ++ y) pad (endIx - beginIx) beginIx with
  | error e => rfl
  | ok ix =>
    have := (skipPadding_fits _ pad _ _ _ hs).2.1
    exact accumulateDigits_append (u := u) _ _ _ (by omega)

theorem parseNumericField_append {lineIx w : Nat} (h : lineIx + w ≤ u.length) (pad : Char)
    (lo hi : Nat) :
    parseNumericField (u ++ x) lineIx w pad lo hi = parseNumericField (u ++ y) lineIx w pad lo hi := by
  simp only [parseNumericField, List.length_append,
    convertStringToNumber_append (x := x) (y := y) (Nat.le_add_right lineIx w) h]
  rw [if_neg (by omega), if_neg (by omega)]

/-- A numeric specifier reads exactly its field. -/
theorem parseNumericSpecifier_extend {lineIx w : Nat} {pad : Char} {lo hi : Nat}
    {set : Nat → ParsedFields} {j : Nat} {g : ParsedFields}
    (h : parseNumericSpecifier (u ++ x) lineIx w pad lo hi set = .ok (some (j, g)))
    (hj : j ≤ u.length) :
    parseNumericSpecifier (u ++ y) lineIx w pad lo hi set = .ok (some (j, g)) := by
  obtain ⟨_, hw, s, hs, rfl, -⟩ := parseNumericSpecifier_consumes h
  rw [numericShapes, List.mem_singleton] at hw
  subst hw
  have hlen : s.length = w := by simpa using hs.length_eq
  unfold parseNumericSpecifier at h ⊢
  rwa [← parseNumericField_append (x := x) (by omega)]

/-- The name a successful name loop found. -/
theorem exists_name_of_consumes {line : List Char} {lineIx j : Nat} {names : List String}
    (h : ConsumesShape line lineIx j (nameShapes names)) :
    ∃ n ∈ names, n.toList <+: line.drop lineIx ∧ j = lineIx + n.length := by
  obtain ⟨w, hw, s, hs, rfl, hp⟩ := h
  obtain ⟨n, hn, rfl⟩ := List.mem_map.mp hw
  have hs' : List.Forall₂ (· = ·) s n.toList := (List.forall₂_map_right_iff.mp hs).imp fun _ _ h => h
  obtain rfl : s = n.toList := List.forall₂_eq_eq_eq ▸ hs'
  exact ⟨n, hn, hp, rfl⟩

/-- **The name loop reads past the name it finds, but to no effect.** A name tried before the
one found, and longer, would have the found one as a prefix; in a prefix-free table it fails
whatever follows. -/
theorem matchName_extend {lineIx : Nat} : ∀ {names : List String} {ix i j : Nat},
    PrefixFree names → matchName (u ++ x) lineIx names ix = .ok (some (i, j)) →
      j ≤ u.length → matchName (u ++ y) lineIx names ix = .ok (some (i, j))
  | [], _, _, _, _, h, _ => by cases h
  | m :: names, ix, i, j, hpf, h, hj => by
    obtain ⟨hm, hpf'⟩ := List.pairwise_cons.mp hpf
    cases hc : compareEq (u ++ x) lineIx m.length m.toList with
    | error e => simp only [matchName, hc, except_error_bind, reduceCtorEq] at h
    | ok b =>
      simp only [matchName, hc, except_ok_bind] at h
      split at h
      · next hb =>
        cases h
        simp only [matchName, ← compareEq_append_of_le (x := x) (y := y) hj, hc, hb,
          except_ok_bind, if_true]
      · next hb =>
        obtain ⟨n, hn, hpn, rfl⟩ := exists_name_of_consumes (matchName_consumes h)
        have hfalse : compareEq (u ++ y) lineIx m.length m.toList = .ok false := by
          by_cases hle : lineIx + m.length ≤ u.length
          · rw [← compareEq_append_of_le hle, hc]
            simpa using hb
          · rw [compareEq, if_neg (by simp; omega)]
            simp only [Except.ok.injEq, beq_eq_false_iff_ne]
            intro heq
            have hn' : n.toList <+: (u ++ y).drop lineIx := by
              have hj' : lineIx + n.toList.length ≤ u.length := hj
              rw [List.prefix_iff_eq_take, take_drop_append_of_le hj'] at hpn ⊢
              exact hpn
            have hm' : m.toList <+: (u ++ y).drop lineIx := heq ▸ List.take_prefix _ _
            exact (hm n hn).2 (List.prefix_of_prefix_length_le hn' hm'
              (show n.length ≤ m.length by omega))
        simp only [matchName, hfalse, except_ok_bind]
        exact matchName_extend hpf' h hj

theorem parseNameSpecifier_extend {lineIx : Nat} {names : List String} (hpf : PrefixFree names)
    {set : Nat → ParsedFields} {j : Nat} {g : ParsedFields}
    (h : parseNameSpecifier (u ++ x) lineIx names set = .ok (some (j, g)))
    (hj : j ≤ u.length) : parseNameSpecifier (u ++ y) lineIx names set = .ok (some (j, g)) := by
  unfold parseNameSpecifier at h ⊢
  cases hm : matchName (u ++ x) lineIx names 0 with
  | error e => simp [hm] at h
  | ok o =>
    rcases o with _ | ⟨k, j'⟩
    · simp [hm] at h
    · simp only [hm, except_ok_bind, Except.ok.injEq, Option.some.injEq, Prod.mk.injEq] at h
      obtain ⟨rfl, rfl⟩ := h
      rw [matchName_extend hpf hm hj]
      rfl

theorem parsePartOfDay_extend {lineIx : Nat} {f : ParsedFields} {j : Nat} {g : ParsedFields}
    (h : parsePartOfDay (u ++ x) lineIx f = .ok (some (j, g))) (hj : j ≤ u.length) :
    parsePartOfDay (u ++ y) lineIx f = .ok (some (j, g)) := by
  obtain ⟨n, hn, -, rfl⟩ := exists_name_of_consumes (parsePartOfDay_consumes h)
  have h2 : lineIx + 2 ≤ u.length := by
    simp only [List.mem_cons, List.mem_singleton, List.not_mem_nil, or_false] at hn
    rcases hn with rfl | rfl <;> exact hj
  unfold parsePartOfDay at h ⊢
  rwa [← compareEq_append_of_le (x := x) (y := y) h2 "AM".toList,
    ← compareEq_append_of_le (x := x) (y := y) h2 "PM".toList]

/-- A literal character of the format, and `%%`: the character at `lineIx` must be `c`. -/
theorem literal_extend {c : Char} {lineIx j : Nat} {f g : ParsedFields}
    (h : (charAt (u ++ x) lineIx >>= fun ch =>
      if c ≠ ch then Except.ok none else Except.ok (some (lineIx + 1, f))) = .ok (some (j, g)))
    (hj : j ≤ u.length) :
    (charAt (u ++ y) lineIx >>= fun ch =>
      if c ≠ ch then Except.ok none else Except.ok (some (lineIx + 1, f))) = .ok (some (j, g)) := by
  cases hc : charAt (u ++ x) lineIx with
  | error e => rw [hc] at h; cases h
  | ok ch =>
    rw [hc, except_ok_bind] at h
    split at h
    · cases h
    · next hch =>
      cases h
      rw [← charAt_append_of_lt (x := x) (show lineIx < u.length by omega), hc,
        except_ok_bind, if_neg hch]

/-- The character after `%` that names a specifier. -/
def Specifier.toChar : Specifier → Char
  | .percent => '%'
  | .twoDigitYear => 'y'
  | .year => 'Y'
  | .monthName => 'B'
  | .abbrevMonthName => 'b'
  | .month => 'm'
  | .date => 'd'
  | .spaceDate => 'e'
  | .abbrevDayOfWeek => 'a'
  | .partOfDay => 'p'
  | .hour => 'H'
  | .spaceHour => 'k'
  | .hour12 => 'I'
  | .spaceHour12 => 'l'
  | .minute => 'M'
  | .second => 'S'
  | .millisecond => '3'

theorem Specifier.eq_toChar_of_ofChar {c : Char} {s : Specifier} (h : Specifier.ofChar c = some s) :
    c = s.toChar := by
  unfold Specifier.ofChar at h
  split at h <;> cases h <;> rfl

/-- The `default` case of `parse_timestamp`'s `switch`. -/
theorem parseSpecifier_unsupported {c : Char} (hs : Specifier.ofChar c = none) (line : List Char)
    (lineIx : Nat) (f : ParsedFields) : parseSpecifier line lineIx f c = .ok none := by
  unfold Specifier.ofChar at hs
  split at hs <;> cases hs
  unfold parseSpecifier
  split <;> first | rfl | contradiction

/-- **Step lemma**: a specifier reads nothing past the text it matches. -/
theorem parseSpecifier_extend {lineIx : Nat} {f : ParsedFields} {c : Char} {j : Nat}
    {g : ParsedFields} (h : parseSpecifier (u ++ x) lineIx f c = .ok (some (j, g)))
    (hj : j ≤ u.length) : parseSpecifier (u ++ y) lineIx f c = .ok (some (j, g)) := by
  cases hs : Specifier.ofChar c with
  | none => rw [parseSpecifier_unsupported hs] at h; cases h
  | some s =>
    obtain rfl := Specifier.eq_toChar_of_ofChar hs
    cases s
    case percent => exact literal_extend h hj
    case monthName => exact parseNameSpecifier_extend prefixFree_cMonthNames h hj
    case abbrevMonthName => exact parseNameSpecifier_extend prefixFree_cAbbrevMonthNames h hj
    case abbrevDayOfWeek => exact parseNameSpecifier_extend prefixFree_cAbbrevDaysOfWeek h hj
    case partOfDay => exact parsePartOfDay_extend h hj
    all_goals exact parseNumericSpecifier_extend h hj

theorem parseToken_extend {lineIx : Nat} {f : ParsedFields} {j : Nat} {g : ParsedFields} :
    ∀ {tok : FormatToken}, parseToken (u ++ x) lineIx f tok = .ok (some (j, g)) →
      j ≤ u.length → parseToken (u ++ y) lineIx f tok = .ok (some (j, g))
  | .literal _, h, hj => literal_extend h hj
  | .specifier _, h, hj => parseSpecifier_extend h hj
  | .danglingPercent, h, _ => h

theorem specifierShapes_ne_nil (c : Char) : [] ∉ specifierShapes c := by
  unfold specifierShapes
  split <;> simp [numericShapes, nameShapes, cMonthNames, cAbbrevMonthNames, cAbbrevDaysOfWeek]

/-- Every token but a dangling `%` consumes a character. -/
theorem parseToken_lt {line : List Char} {lineIx : Nat} {f : ParsedFields} {j : Nat}
    {g : ParsedFields} {tok : FormatToken} (h : parseToken line lineIx f tok = .ok (some (j, g)))
    (htok : tok ≠ .danglingPercent) : lineIx < j := by
  obtain ⟨w, hw, s, hs, rfl, -⟩ := parseToken_consumes h
  have hne : w ≠ [] := fun hnil => by
    subst hnil
    cases tok with
    | literal c => simp [FormatToken.shapes] at hw
    | specifier c => exact specifierShapes_ne_nil c hw
    | danglingPercent => exact htok rfl
  have := hs.length_eq
  have := List.length_pos.mpr hne
  omega

/-- **Run lemma**: the format loop, where it matches text that ends within `u`, matches the
same text whatever follows `u`, provided no token is a dangling `%`. -/
theorem parseTokens_extend : ∀ {toks : List FormatToken} {lineIx : Nat} {f : ParsedFields}
    {j : Nat} {g : ParsedFields}, FormatToken.danglingPercent ∉ toks →
      parseTokens (u ++ x) toks lineIx f = .ok (some (j, g)) → j ≤ u.length →
        parseTokens (u ++ y) toks lineIx f = .ok (some (j, g))
  | [], _, _, _, _, _, h, _ => h
  | tok :: toks, lineIx, f, j, g, hd, h, hj => by
    simp only [parseTokens] at h ⊢
    split at h
    · cases ht : parseToken (u ++ x) lineIx f tok with
      | error e => simp only [ht, except_error_bind, reduceCtorEq] at h
      | ok o =>
        rcases o with _ | ⟨j', g'⟩
        · simp only [ht, except_ok_bind] at h
          cases h
        · simp only [ht, except_ok_bind] at h
          have hlt := parseToken_lt ht fun heq => hd (heq ▸ List.mem_cons_self _ _)
          obtain ⟨s, -, rfl, -⟩ := parseTokens_matches _ toks j' g' j g h
          rw [if_pos (by simp; omega), parseToken_extend ht (by omega), except_ok_bind]
          exact parseTokens_extend (fun hm => hd (List.mem_cons_of_mem _ hm)) h hj
    · cases h

end Reads

/-- **A match depends only on its text.** When `parse_timestamp` finds a timestamp in `line`, it
finds the same timestamp, at the same positions, in every line that starts with the characters
of `line` up to the end of the match: the parser never reads past the end of what it matches.
Only a format ending in a dangling `%` escapes this, since the loop then asks for one more
character without reading it. -/
theorem parseTimestamp_extend {p : TimestampPattern}
    (hd : FormatToken.danglingPercent ∉ tokenize p.format.toList) {line line' : List Char}
    {r : ParsedTimestamp} (h : p.parseTimestamp line = .ok (some r))
    (hpre : line.take r.timestampEndPos <+: line') : p.parseTimestamp line' = .ok (some r) := by
  obtain ⟨rest, rfl⟩ := hpre
  unfold TimestampPattern.parseTimestamp at h ⊢
  cases hf : findTimestampBegin line p.numSpacesBeforeTs.toNat line.length 0 0 with
  | error e => simp only [hf, except_error_bind, reduceCtorEq] at h
  | ok bf =>
    obtain ⟨b, found⟩ := bf
    obtain ⟨b', found', hf', hb, -, hle, -⟩ := findTimestampBegin_start line p.numSpacesBeforeTs.toNat
    rw [hf] at hf'
    cases hf'
    simp only [hf, except_ok_bind] at h
    split at h
    · cases h
    · next hnot =>
      obtain rfl : found = p.numSpacesBeforeTs.toNat := by omega
      rw [parseFormat_eq_parseTokens] at h
      cases hp : parseTokens line (tokenize p.format.toList) b {} with
      | error e =>
        simp only [hp, except_error_bind] at h
        cases h
      | ok o =>
        rcases o with _ | ⟨e, f⟩
        · simp only [hp, except_ok_bind, reduceCtorEq] at h
          cases h
        · simp only [hp, except_ok_bind] at h
          split at h
          · cases h
          · next hok =>
            cases h
            obtain ⟨s, -, rfl, hs⟩ := parseTokens_matches _ _ _ _ _ _ hp
            have he : b + s.length ≤ line.length := by
              have := hs.length_le; simp at this; omega
            rw [← List.take_append_drop (b + s.length) line] at hp
            have hp' := parseTokens_extend (y := rest) hd hp (by simp; omega)
            have hfind := findTimestampBegin_extend hf
              (show line.take b <+: line.take (b + s.length) ++ rest from
                (List.take_prefix_take_left line (Nat.le_add_right b s.length)).trans
                  (List.prefix_append _ _))
            simp only [hfind, except_ok_bind, hnot, if_false, parseFormat_eq_parseTokens, hp', hok]
            rfl

/-- A line cut right after its timestamp gives the match of the whole line. -/
theorem parseTimestamp_extend_cut :
    FormatToken.danglingPercent ∉
        tokenize (⟨0, "%Y-%m-%d %H:%M:%S"⟩ : TimestampPattern).format.toList ∧
      (⟨0, "%Y-%m-%d %H:%M:%S"⟩ : TimestampPattern).parseTimestamp
        "2015-02-01 01:02:03,004 INFO".toList = .ok (some ⟨1422752523000, 0, 19⟩) ∧
      "2015-02-01 01:02:03,004 INFO".toList.take 19 <+: "2015-02-01 01:02:03".toList ∧
      (⟨0, "%Y-%m-%d %H:%M:%S"⟩ : TimestampPattern).parseTimestamp
        "2015-02-01 01:02:03".toList = .ok (some ⟨1422752523000, 0, 19⟩) :=
  have hd : FormatToken.danglingPercent ∉
      tokenize (⟨0, "%Y-%m-%d %H:%M:%S"⟩ : TimestampPattern).format.toList := by decide
  have h : (⟨0, "%Y-%m-%d %H:%M:%S"⟩ : TimestampPattern).parseTimestamp
      "2015-02-01 01:02:03,004 INFO".toList = .ok (some ⟨1422752523000, 0, 19⟩) := by decide
  have hpre : "2015-02-01 01:02:03,004 INFO".toList.take 19 <+: "2015-02-01 01:02:03".toList := by
    decide
  ⟨hd, h, hpre, parseTimestamp_extend hd h hpre⟩

end ClpCore
