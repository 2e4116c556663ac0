import ClpCore.TimestampPattern.Safety

/-!
# The catalog tries longer timestamps first

`search_known_ts_patterns` returns the first pattern of the catalog that parses a line. This file
shows that this choice never loses text: when a later pattern parses the same line from the same
begin position, it ends no later. The argument abstracts each format to the texts it can match,
a sequence of character classes per token, checks every ordered pair of catalog patterns against
that abstraction by evaluation, and connects the abstraction to the parser.

## Main definitions

- `CharClass`, `FormatToken.shapes` — the texts one token can match
- `MatchesTokens` — the texts a list of tokens can match
- `mayBeProperPrefix` — whether a text of one format can be a proper prefix of a text of another
- `longerFirst` — that check over every ordered pair of a list of patterns

## Main results

- `parseTokens_matches` — the text the format loop consumes matches the format
- `mayBeProperPrefix_of_matches` — the check rules out only what cannot happen
- `catalog_longest_match`
-/

namespace ClpCore

/-- A set of characters that one position of a matched text may hold. -/
inductive CharClass
  | char (c : Char)
  /-- A decimal digit or the padding character. -/
  | digitOr (c : Char)
  deriving DecidableEq, Repr

/-- `c` is one of the characters of the class; a digit is what `convert_string_to_number`
accepts as one. -/
def Fits (c : Char) : CharClass → Prop
  | .char d => c = d
  | .digitOr d => c = d ∨ ¬(c < '0' ∨ c > '9')

/-- Whether two classes have a character in common. -/
def CharClass.overlaps : CharClass → CharClass → Bool
  | .char c, .char d => c = d
  | .char c, .digitOr d | .digitOr d, .char c => c = d ∨ ¬(c < '0' ∨ c > '9')
  | .digitOr _, .digitOr _ => true

theorem CharClass.overlaps_of_fits {c : Char} {a b : CharClass} (ha : Fits c a) (hb : Fits c b) :
    a.overlaps b = true := by
  cases a <;> cases b <;> simp only [Fits] at ha hb <;> subst_vars <;>
    simp_all [CharClass.overlaps]

/-- The texts of a numeric field: `cFieldLength` digits or padding characters. -/
def numericShapes (cFieldLength : Nat) (paddingCharacter : Char) : List (List CharClass) :=
  [List.replicate cFieldLength (.digitOr paddingCharacter)]

/-- The texts of a name field: one of `names`. -/
def nameShapes (names : List String) : List (List CharClass) :=
  names.map fun name => name.toList.map .char

/-- The texts each specifier of `parse_timestamp` can read. -/
def specifierShapes : Char → List (List CharClass)
  | '%' => [[.char '%']]
  | 'y' | 'm' | 'd' | 'H' | 'I' | 'M' | 'S' => numericShapes 2 '0'
  | 'Y' => numericShapes 4 '0'
  | 'e' | 'k' | 'l' => numericShapes 2 ' '
  | '3' => numericShapes 3 '0'
  | 'B' => nameShapes cMonthNames
  | 'b' => nameShapes cAbbrevMonthNames
  | 'a' => nameShapes cAbbrevDaysOfWeek
  | 'p' => nameShapes ["AM", "PM"]
  | _ => []

/-- The texts a token can match, each a sequence of character classes. -/
def FormatToken.shapes : FormatToken → List (List CharClass)
  | .literal c => [[.char c]]
  | .specifier c => specifierShapes c
  | .danglingPercent => [[]]

/-- `s` starts with a text of the classes `w`, and what follows satisfies `P`. -/
def FitsThen (P : List Char → Prop) : List CharClass → List Char → Prop
  | [], s => P s
  | k :: w, c :: s => Fits c k ∧ FitsThen P w s
  | _ :: _, [] => False

/-- `s` is a text the tokens can match: one shape of each token, in order. -/
def MatchesTokens : List FormatToken → List Char → Prop
  | [], s => s = []
  | tok :: toks, s => ∃ w ∈ tok.shapes, FitsThen (MatchesTokens toks) w s

theorem fitsThen_append {P : List Char → Prop} {s t : List Char} {w : List CharClass}
    (hs : List.Forall₂ Fits s w) (ht : P t) : FitsThen P w (s ++ t) := by
  induction hs with
  | nil => exact ht
  | cons hc _ ih => exact ⟨hc, ih⟩

-- ════════════════════════════════════════════════════════════════════════
-- Comparing two formats
-- ════════════════════════════════════════════════════════════════════════

/-- Whether a text of the classes `as` followed by a text of the tokens `ts` can be a proper
prefix of a text of `bs` followed by `us`, explored one character at a time. `false` rules it
out; `true`, also when `fuel` runs out, does not. -/
def mayBeProperPrefix : Nat → List CharClass → List FormatToken → List CharClass →
    List FormatToken → Bool
  | 0, _, _, _, _ => true
  | _ + 1, [], [], bs, us => !bs.isEmpty || !us.isEmpty
  | fuel + 1, [], t :: ts, bs, us => t.shapes.any fun w => mayBeProperPrefix fuel w ts bs us
  | _ + 1, _ :: _, _, [], [] => false
  | fuel + 1, as@(_ :: _), ts, [], u :: us =>
    u.shapes.any fun w => mayBeProperPrefix fuel as ts w us
  | fuel + 1, a :: as, ts, b :: bs, us => a.overlaps b && mayBeProperPrefix fuel as ts bs us

/-- **Soundness of the check.** If a text of the first format followed by a nonempty `x` is a
text of the second, the check says so. -/
theorem mayBeProperPrefix_of_matches : ∀ (fuel : Nat) (as : List CharClass) (ts : List FormatToken)
    (bs : List CharClass) (us : List FormatToken) (s x : List Char),
    FitsThen (MatchesTokens ts) as s → FitsThen (MatchesTokens us) bs (s ++ x) → x ≠ [] →
      mayBeProperPrefix fuel as ts bs us = true
  | 0, _, _, _, _, _, _, _, _, _ => rfl
  | _ + 1, [], [], bs, us, s, x, hs, hx, hne => by
    cases bs <;> cases us <;> simp_all [mayBeProperPrefix, FitsThen, MatchesTokens]
  | fuel + 1, [], t :: ts, bs, us, s, x, hs, hx, hne => by
    obtain ⟨w, hw, hs⟩ := hs
    simp only [mayBeProperPrefix, List.any_eq_true]
    exact ⟨w, hw, mayBeProperPrefix_of_matches fuel w ts bs us s x hs hx hne⟩
  | _ + 1, _ :: _, _, [], [], s, x, _, hx, hne => by
    simp_all [FitsThen, MatchesTokens]
  | fuel + 1, a :: as, ts, [], u :: us, s, x, hs, hx, hne => by
    obtain ⟨w, hw, hx⟩ := hx
    simp only [mayBeProperPrefix, List.any_eq_true]
    exact ⟨w, hw, mayBeProperPrefix_of_matches fuel (a :: as) ts w us s x hs hx hne⟩
  | fuel + 1, a :: as, ts, b :: bs, us, c :: s, x, ⟨hc, hs⟩, ⟨hb, hx⟩, hne => by
    simp only [mayBeProperPrefix, CharClass.overlaps_of_fits hc hb, Bool.true_and]
    exact mayBeProperPrefix_of_matches fuel as ts bs us s x hs hx hne
  | _ + 1, _ :: _, _, _ :: _, _, [], _, hs, _, _ => hs.elim

-- ════════════════════════════════════════════════════════════════════════
-- What the parser consumes
-- ════════════════════════════════════════════════════════════════════════

/-- A read of the parser from `lineIx` to `lineIx'` consumed a text of one of the shapes `ws`,
which the line holds from `lineIx` on. -/
def ConsumesShape (line : List Char) (lineIx lineIx' : Nat) (ws : List (List CharClass)) : Prop :=
  ∃ w ∈ ws, ∃ s, List.Forall₂ Fits s w ∧ lineIx' = lineIx + s.length ∧ s <+: line.drop lineIx

theorem drop_eq_cons_of_charAt {str : List Char} {ix : Nat} {c : Char}
    (h : charAt str ix = .ok c) : str.drop ix = c :: str.drop (ix + 1) := by
  unfold charAt at h
  split at h
  · next c' hget =>
    cases h
    obtain ⟨hix, rfl⟩ := List.get?_eq_some.mp hget
    exact List.drop_eq_getElem_cons hix
  · cases h

theorem eq_of_compareEq {line : List Char} {pos len : Nat} {s : List Char} {b : Bool}
    (h : compareEq line pos len s = .ok b) : b = ((line.drop pos).take len == s) := by
  unfold compareEq at h
  split at h
  · cases h
  · cases h; rfl

theorem append_prefix_drop {l s t : List Char} {ix : Nat} (hs : s <+: l.drop ix)
    (ht : t <+: l.drop (ix + s.length)) : s ++ t <+: l.drop ix := by
  obtain ⟨r, hr⟩ := hs
  have : l.drop (ix + s.length) = r := by rw [← List.drop_drop, ← hr, List.drop_left]
  rw [← hr, List.prefix_append_right_inj]
  exact this ▸ ht

/-- A text of `n` characters of one class fits `n` copies of the class. -/
theorem forall₂_replicate_of_forall {s : List Char} {k : CharClass}
    (h : ∀ c ∈ s, Fits c k) : List.Forall₂ Fits s (List.replicate s.length k) := by
  induction s with
  | nil => exact .nil
  | cons c s ih => exact .cons (h c (.head _)) (ih fun c hc => h c (.tail _ hc))

theorem skipPadding_fits (str : List Char) (pad : Char) : ∀ n ix ix',
    skipPadding str pad n ix = .ok ix' →
      ix ≤ ix' ∧ ix' ≤ ix + n ∧ ∀ c ∈ (str.drop ix).take (ix' - ix), Fits c (.digitOr pad)
  | 0, ix, ix', h => by cases h; simp
  | n + 1, ix, ix', h => by
    cases hc : charAt str ix with
    | error e => simp [skipPadding, hc] at h
    | ok c =>
      simp only [skipPadding, hc, except_ok_bind] at h
      split at h
      · next hpad =>
        obtain ⟨h1, h2, h3⟩ := skipPadding_fits str pad n (ix + 1) ix' h
        refine ⟨by omega, by omega, ?_⟩
        rw [drop_eq_cons_of_charAt hc, show ix' - ix = ix' - (ix + 1) + 1 by omega,
          List.take_succ_cons]
        rintro d (_ | ⟨_, hd⟩)
        · exact .inl hpad.symm
        · exact h3 d hd
      · cases h; simp

theorem accumulateDigits_fits (str : List Char) (pad : Char) : ∀ n ix value r,
    accumulateDigits str n ix value = .ok (some r) →
      ∀ c ∈ (str.drop ix).take n, Fits c (.digitOr pad)
  | 0, ix, _, _, _ => by simp
  | n + 1, ix, value, r, h => by
    cases hc : charAt str ix with
    | error e => simp [accumulateDigits, hc] at h
    | ok c =>
      simp only [accumulateDigits, hc, except_ok_bind] at h
      split at h
      · cases h
      · next hdig =>
        have h2 := accumulateDigits_fits str pad n (ix + 1) _ r h
        rw [drop_eq_cons_of_charAt hc, List.take_succ_cons]
        rintro d (_ | ⟨_, hd⟩)
        · exact .inr hdig
        · exact h2 d hd

/-- A numeral that `convert_string_to_number` accepts is made of digits and padding characters. -/
theorem convertStringToNumber_fits {str : List Char} {beginIx endIx : Nat} {pad : Char} {v : Nat}
    (h : convertStringToNumber str beginIx endIx pad = .ok (some v)) (hle : beginIx ≤ endIx) :
    ∀ c ∈ (str.drop beginIx).take (endIx - beginIx), Fits c (.digitOr pad) := by
  unfold convertStringToNumber at h
  cases hskip : skipPadding str pad (endIx - beginIx) beginIx with
  | error e => simp [hskip] at h
  | ok ix =>
    rw [hskip, except_ok_bind] at h
    obtain ⟨h1, h2, h3⟩ := skipPadding_fits str pad _ _ _ hskip
    have h5 := accumulateDigits_fits str pad _ _ _ _ h
    rw [show endIx - beginIx = (ix - beginIx) + (endIx - ix) by omega, List.take_add,
      List.drop_drop, show beginIx + (ix - beginIx) = ix by omega]
    intro c hc
    rcases List.mem_append.mp hc with hc | hc
    · exact h3 c hc
    · exact h5 c hc

theorem parseNumericSpecifier_consumes {line : List Char} {lineIx w : Nat} {pad : Char} {lo hi : Nat}
    {set : Nat → ParsedFields} {lineIx' : Nat} {f' : ParsedFields}
    (h : parseNumericSpecifier line lineIx w pad lo hi set = .ok (some (lineIx', f'))) :
    ConsumesShape line lineIx lineIx' (numericShapes w pad) := by
  unfold parseNumericSpecifier parseNumericField at h
  split at h
  · cases h
  · next hlen =>
    cases hconv : convertStringToNumber line lineIx (lineIx + w) pad with
    | error e => simp [hconv] at h
    | ok r =>
      rcases r with _ | v
      · simp [hconv] at h
      · simp only [hconv, except_ok_bind] at h
        split at h <;> simp only [except_ok_bind, Except.ok.injEq, Option.some.injEq,
          Prod.mk.injEq, reduceCtorEq] at h
        have hfits := convertStringToNumber_fits hconv (Nat.le_add_right _ _)
        rw [Nat.add_sub_cancel_left] at hfits
        have hlen' : ((line.drop lineIx).take w).length = w := by simp; omega
        refine ⟨_, List.mem_singleton_self _, _, hlen' ▸ forall₂_replicate_of_forall hfits,
          by omega, List.take_prefix _ _⟩

/-- A name that `std::string::compare` found at `lineIx` is a text of the name shapes. -/
theorem consumesShape_of_compareEq {line : List Char} {lineIx : Nat} (name : String)
    {names : List String} (hmem : name ∈ names)
    (h : compareEq line lineIx name.length name.toList = .ok true) :
    ConsumesShape line lineIx (lineIx + name.length) (nameShapes names) := by
  have htake : (line.drop lineIx).take name.length = name.toList := by
    simpa using (eq_of_compareEq h).symm
  refine ⟨_, List.mem_map_of_mem _ hmem, name.toList,
    List.forall₂_map_right_iff.mpr (List.forall₂_same.mpr fun _ _ => rfl), ?_,
    htake ▸ List.take_prefix _ _⟩
  cases name; rfl

theorem matchName_consumes {line : List Char} {lineIx : Nat} :
    ∀ {names : List String} {ix k lineIx' : Nat},
      matchName line lineIx names ix = .ok (some (k, lineIx')) →
        ConsumesShape line lineIx lineIx' (nameShapes names)
  | [], _, _, _, h => by cases h
  | name :: names, ix, k, lineIx', h => by
    cases hc : compareEq line lineIx name.length name.toList with
    | error e => simp only [matchName, hc, except_error_bind, reduceCtorEq] at h
    | ok b =>
      simp only [matchName, hc, except_ok_bind] at h
      split at h
      · next hb =>
        cases h
        exact consumesShape_of_compareEq name (List.mem_cons_self _ _) (hb ▸ hc)
      · obtain ⟨w, hw, hs⟩ := matchName_consumes h
        exact ⟨w, List.mem_cons_of_mem _ hw, hs⟩

theorem parseNameSpecifier_consumes {line : List Char} {lineIx : Nat} {names : List String}
    {set : Nat → ParsedFields} {lineIx' : Nat} {f' : ParsedFields}
    (h : parseNameSpecifier line lineIx names set = .ok (some (lineIx', f'))) :
    ConsumesShape line lineIx lineIx' (nameShapes names) := by
  unfold parseNameSpecifier at h
  cases hm : matchName line lineIx names 0 with
  | error e => simp [hm] at h
  | ok r =>
    rcases r with _ | ⟨k, j⟩
    · simp [hm] at h
    · simp only [hm, except_ok_bind, Except.ok.injEq, Option.some.injEq, Prod.mk.injEq] at h
      exact h.1 ▸ matchName_consumes hm

theorem parsePartOfDay_consumes {line : List Char} {lineIx : Nat} {f : ParsedFields}
    {lineIx' : Nat} {f' : ParsedFields} (h : parsePartOfDay line lineIx f = .ok (some (lineIx', f'))) :
    ConsumesShape line lineIx lineIx' (nameShapes ["AM", "PM"]) := by
  unfold parsePartOfDay at h
  cases hc1 : compareEq line lineIx 2 "AM".toList with
  | error e => simp only [hc1, except_error_bind, reduceCtorEq] at h
  | ok b1 =>
    simp only [hc1, except_ok_bind] at h
    split at h
    · next hb => cases h; exact consumesShape_of_compareEq "AM" (by simp) (hb ▸ hc1)
    · cases hc2 : compareEq line lineIx 2 "PM".toList with
      | error e => simp only [hc2, except_error_bind, reduceCtorEq] at h
      | ok b2 =>
        simp only [hc2, except_ok_bind] at h
        split at h
        · next hb => cases h; exact consumesShape_of_compareEq "PM" (by simp) (hb ▸ hc2)
        · cases h

/-- **Step lemma**: what one specifier consumes is a text of its shapes. -/
theorem parseSpecifier_consumes {line : List Char} {lineIx : Nat} {f : ParsedFields} {c : Char}
    {lineIx' : Nat} {f' : ParsedFields} (h : parseSpecifier line lineIx f c = .ok (some (lineIx', f'))) :
    ConsumesShape line lineIx lineIx' (specifierShapes c) := by
  unfold parseSpecifier at h
  split at h
  · cases hc : charAt line lineIx with
    | error e => simp only [hc, except_error_bind, reduceCtorEq] at h
    | ok ch =>
      simp only [hc, except_ok_bind] at h
      split at h
      · cases h
      · next hch =>
        cases h
        refine ⟨_, List.mem_singleton_self _, ['%'], .cons rfl .nil, rfl, ?_⟩
        rw [drop_eq_cons_of_charAt hc, not_not.mp hch]
        exact ⟨_, rfl⟩
  all_goals first
    | exact parseNumericSpecifier_consumes h
    | exact parseNameSpecifier_consumes h
    | exact parsePartOfDay_consumes h
    | cases h

theorem parseToken_consumes {line : List Char} {lineIx : Nat} {f : ParsedFields} {lineIx' : Nat}
    {f' : ParsedFields} : ∀ {tok : FormatToken},
      parseToken line lineIx f tok = .ok (some (lineIx', f')) →
        ConsumesShape line lineIx lineIx' tok.shapes
  | .literal c, h => by
    cases hc : charAt line lineIx with
    | error e => simp only [parseToken, hc, except_error_bind, reduceCtorEq] at h
    | ok ch =>
      simp only [parseToken, hc, except_ok_bind] at h
      split at h
      · cases h
      · next hch =>
        cases h
        refine ⟨_, List.mem_singleton_self _, [c], .cons rfl .nil, rfl, ?_⟩
        rw [drop_eq_cons_of_charAt hc, not_not.mp hch]
        exact ⟨_, rfl⟩
  | .specifier c, h => parseSpecifier_consumes h
  | .danglingPercent, h => by
    cases h
    exact ⟨[], List.mem_singleton_self _, [], .nil, rfl, List.nil_prefix⟩

/-- **Run lemma**: the text the format loop consumes from `lineIx` to `lineIx'` is a text of
the tokens, and the line holds it from `lineIx` on. -/
theorem parseTokens_matches (line : List Char) : ∀ (toks : List FormatToken) (lineIx : Nat)
    (f : ParsedFields) (lineIx' : Nat) (f' : ParsedFields),
    parseTokens line toks lineIx f = .ok (some (lineIx', f')) →
      ∃ s, MatchesTokens toks s ∧ lineIx' = lineIx + s.length ∧ s <+: line.drop lineIx
  | [], lineIx, f, lineIx', f', h => by
    cases h
    exact ⟨[], rfl, rfl, List.nil_prefix⟩
  | tok :: toks, lineIx, f, lineIx', f', h => by
    simp only [parseTokens] at h
    split at h
    · cases ht : parseToken line lineIx f tok with
      | error e => simp only [ht, except_error_bind, reduceCtorEq] at h
      | ok r =>
        rcases r with _ | ⟨j, g⟩
        · simp only [ht, except_ok_bind] at h
          cases h
        · simp only [ht, except_ok_bind] at h
          obtain ⟨w, hw, s₁, hs₁, rfl, hp₁⟩ := parseToken_consumes ht
          obtain ⟨s₂, hs₂, rfl, hp₂⟩ := parseTokens_matches line toks _ g lineIx' f' h
          exact ⟨s₁ ++ s₂, ⟨w, hw, fitsThen_append hs₁ hs₂⟩, by simp; omega,
            append_prefix_drop hp₁ hp₂⟩
    · cases h

-- ════════════════════════════════════════════════════════════════════════
-- The catalog
-- ════════════════════════════════════════════════════════════════════════

/-- Whether no pattern of `ps` can match a proper prefix of what a later pattern with as many
preamble spaces matches, as far as `mayBeProperPrefix` tells with `fuel`. -/
def longerFirst (fuel : Nat) : List TimestampPattern → Bool
  | [] => true
  | p :: ps => ps.all (fun q => p.numSpacesBeforeTs != q.numSpacesBeforeTs ||
      !mayBeProperPrefix fuel [] (tokenize p.format.toList) [] (tokenize q.format.toList)) &&
    longerFirst fuel ps

theorem longerFirst_init : longerFirst 100 TimestampPattern.init = true := by decide

theorem longerFirst_of_sublist {fuel : Nat} {p q : TimestampPattern} :
    ∀ {ps : List TimestampPattern}, longerFirst fuel ps = true → List.Sublist [p, q] ps →
      p.numSpacesBeforeTs ≠ q.numSpacesBeforeTs ∨
        mayBeProperPrefix fuel [] (tokenize p.format.toList) [] (tokenize q.format.toList) = false
  | a :: ps, h, hsub => by
    simp only [longerFirst, Bool.and_eq_true, List.all_eq_true] at h
    cases hsub with
    | cons _ hsub => exact longerFirst_of_sublist h.2 hsub
    | cons₂ _ hsub =>
      have := h.1 q (List.singleton_sublist.mp hsub)
      simpa [Bool.or_eq_true, bne_iff_ne] using this

/-- What a successful `parse_timestamp` did: its begin position follows the pattern's preamble
spaces, the format loop ran from there to its end position, and the timestamp is composed from a
date `year_month_day::ok` accepts and the time of day the loop read. -/
theorem parseTimestamp_eq_some {p : TimestampPattern} {line : List Char} {r : ParsedTimestamp}
    (h : p.parseTimestamp line = .ok (some r)) :
    (line.take r.timestampBeginPos).count ' ' = p.numSpacesBeforeTs.toNat ∧
      ∃ f, parseTokens line (tokenize p.format.toList) r.timestampBeginPos {} =
        .ok (some (r.timestampEndPos, f)) ∧ (Date.YearMonthDay.mk f.year f.month f.date).ok = true ∧
        r.timestamp = Date.YearMonthDay.toDays ⟨f.year, f.month, f.date⟩ * msPerDay +
          f.hour24 * 3600000 + f.minute * 60000 + f.second * 1000 + f.millisecond -
          Date.YearMonthDay.toDays ⟨1970, 1, 1⟩ * msPerDay := by
  refine ⟨?_, ?_⟩
  · obtain ⟨r', hr', hm⟩ := parseTimestamp_ok p line
    rw [h] at hr'
    cases hr'
    exact (hm r rfl).2.2.1
  · unfold TimestampPattern.parseTimestamp at h
    cases hf : findTimestampBegin line p.numSpacesBeforeTs.toNat line.length 0 0 with
    | error e => simp only [hf, except_error_bind, reduceCtorEq] at h
    | ok bf =>
      obtain ⟨b, found⟩ := bf
      simp only [hf, except_ok_bind] at h
      split at h
      · cases h
      · rw [parseFormat_eq_parseTokens] at h
        cases hp : parseTokens line (tokenize p.format.toList) b {} with
        | error e => simp only [hp, except_error_bind] at h; cases h
        | ok o =>
          rcases o with _ | ⟨e, f⟩
          · simp only [hp, except_ok_bind] at h
            cases h
          · simp only [hp, except_ok_bind] at h
            split at h
            · cases h
            · next hok =>
              cases h
              exact ⟨f, hp, by simpa using hok, rfl⟩

/-- What a search that found a pattern did: every pattern before it failed, and the positions
are those the pattern parsed. -/
theorem searchKnownTsPatterns_eq_some {line : List Char} {timestamp : Int} {res : SearchResult}
    {p : TimestampPattern} : ∀ {ps : List TimestampPattern},
      searchKnownTsPatterns ps line timestamp = .ok res → res.pattern = some p →
        ∃ pre post r, ps = pre ++ p :: post ∧ (∀ q ∈ pre, q.parseTimestamp line = .ok none) ∧
          p.parseTimestamp line = .ok (some r) ∧ res.timestampBeginPos = r.timestampBeginPos ∧
            res.timestampEndPos = r.timestampEndPos
  | [], h, hp => by cases h; cases hp
  | a :: ps, h, hp => by
    cases ha : a.parseTimestamp line with
    | error e => simp only [searchKnownTsPatterns, ha, except_error_bind, reduceCtorEq] at h
    | ok o =>
      rcases o with _ | r
      · simp only [searchKnownTsPatterns, ha, except_ok_bind] at h
        obtain ⟨pre, post, r, rfl, hpre, hr⟩ := searchKnownTsPatterns_eq_some h hp
        refine ⟨a :: pre, post, r, rfl, ?_, hr⟩
        rintro q (_ | ⟨_, hq⟩)
        · exact ha
        · exact hpre q hq
      · simp only [searchKnownTsPatterns, ha, except_ok_bind] at h
        cases h
        cases hp
        exact ⟨[], ps, r, rfl, by simp, ha, rfl, rfl⟩

/-- Two patterns that parse a line from the same begin position: where the check rules out
that the first matches a proper prefix of what the second matches, the second ends no later. -/
theorem end_le_of_mayBeProperPrefix_eq_false {p q : TimestampPattern} {line : List Char}
    {r r' : ParsedTimestamp} {fuel : Nat}
    (hcheck : mayBeProperPrefix fuel [] (tokenize p.format.toList) [] (tokenize q.format.toList) =
      false)
    (hp : p.parseTimestamp line = .ok (some r)) (hq : q.parseTimestamp line = .ok (some r'))
    (hb : r'.timestampBeginPos = r.timestampBeginPos) : r'.timestampEndPos ≤ r.timestampEndPos := by
  obtain ⟨-, f, hpf, -⟩ := parseTimestamp_eq_some hp
  obtain ⟨-, f', hqf, -⟩ := parseTimestamp_eq_some hq
  obtain ⟨s, hs, he, hsp⟩ := parseTokens_matches line _ _ _ _ _ hpf
  obtain ⟨s', hs', he', hsp'⟩ := parseTokens_matches line _ _ _ _ _ hqf
  rw [hb] at he' hsp'
  by_contra hlt
  obtain ⟨x, rfl⟩ := List.prefix_of_prefix_length_le hsp hsp' (by omega)
  have hx : x ≠ [] := by rintro rfl; simp at he'; omega
  have := mayBeProperPrefix_of_matches fuel [] _ [] _ s x hs hs' hx
  rw [hcheck] at this
  exact Bool.false_ne_true this

/-- Of two catalog patterns that parse a line from the same begin position, the earlier ends no
earlier. -/
theorem init_end_le {p q : TimestampPattern} (hpq : List.Sublist [p, q] TimestampPattern.init)
    {line : List Char} {r r' : ParsedTimestamp} (hp : p.parseTimestamp line = .ok (some r))
    (hq : q.parseTimestamp line = .ok (some r'))
    (hb : r'.timestampBeginPos = r.timestampBeginPos) : r'.timestampEndPos ≤ r.timestampEndPos := by
  rcases longerFirst_of_sublist longerFirst_init hpq with hN | hcheck
  · have hcp := (parseTimestamp_eq_some hp).1
    have hcq := (parseTimestamp_eq_some hq).1
    rw [hb, hcp] at hcq
    exact absurd (UInt8.toNat.inj hcq) hN
  · exact end_le_of_mayBeProperPrefix_eq_false hcheck hp hq hb

/-- **The catalog tries longer timestamps first.** When two catalog patterns, the first before
the second, both parse a line from the same begin position, the first ends no earlier. So no
pattern of the catalog parses a line from the begin position that `search_known_ts_patterns`
reports and ends after the end position it reports. -/
theorem catalog_longest_match (line : List Char) :
    (∀ p q : TimestampPattern, List.Sublist [p, q] TimestampPattern.init → ∀ r r' : ParsedTimestamp,
      p.parseTimestamp line = .ok (some r) → q.parseTimestamp line = .ok (some r') →
        r'.timestampBeginPos = r.timestampBeginPos → r'.timestampEndPos ≤ r.timestampEndPos) ∧
    ∀ (timestamp : Int) (res : SearchResult) (p : TimestampPattern),
      searchKnownTsPatterns TimestampPattern.init line timestamp = .ok res → res.pattern = some p →
        ∀ q ∈ TimestampPattern.init, ∀ r' : ParsedTimestamp,
          q.parseTimestamp line = .ok (some r') → r'.timestampBeginPos = res.timestampBeginPos →
            r'.timestampEndPos ≤ res.timestampEndPos := by
  refine ⟨fun p q hpq r r' hp hq hb => init_end_le hpq hp hq hb, ?_⟩
  intro timestamp res p hs hres q hq r' hqr hb
  obtain ⟨pre, post, r, hinit, hpre, hp, hbeg, hend⟩ := searchKnownTsPatterns_eq_some hs hres
  rw [hinit, List.mem_append, List.mem_cons] at hq
  rcases hq with hq | rfl | hq
  · rw [hpre q hq] at hqr
    cases hqr
  · rw [hp] at hqr
    cases hqr
    exact hend.ge
  · have hpq : List.Sublist [p, q] TimestampPattern.init :=
      hinit ▸ ((List.singleton_sublist.mpr hq).cons₂ p).trans (List.sublist_append_right _ _)
    rw [hend]
    exact init_end_le hpq hp hqr (hb.trans hbeg)

/-- On a line with milliseconds, where `%Y-%m-%d %H:%M:%S` also matches, the search reports the
pattern that reads the milliseconds, and nothing in the catalog ends later. -/
theorem catalog_longest_match_with_milliseconds :
    searchKnownTsPatterns TimestampPattern.init "2015-02-01 01:02:03,004".toList 0 =
      .ok ⟨some ⟨0, "%Y-%m-%d %H:%M:%S,%3"⟩, 1422752523004, 0, 23⟩ ∧
    ∀ q ∈ TimestampPattern.init, ∀ r' : ParsedTimestamp,
      q.parseTimestamp "2015-02-01 01:02:03,004".toList = .ok (some r') →
        r'.timestampBeginPos = 0 → r'.timestampEndPos ≤ 23 :=
  ⟨by decide, (catalog_longest_match _).2 0 ⟨some ⟨0, "%Y-%m-%d %H:%M:%S,%3"⟩, 1422752523004, 0, 23⟩
    ⟨0, "%Y-%m-%d %H:%M:%S,%3"⟩ (by decide) rfl⟩

end ClpCore
