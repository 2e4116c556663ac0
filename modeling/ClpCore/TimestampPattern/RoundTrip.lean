import ClpCore.TimestampPattern.ReadBack

/-!
# Round trips between the formatter and the parser

`insert_formatted_timestamp` writes a timestamp into a message and `parse_timestamp` reads one
from a line. For a well-formed format (every specifier supported, each field written by one
specifier, a part of day only with an hour and a weekday only with a full date) this file
computes what the parser reads from a message the formatter wrote, and shows that the
timestamp it reads writes the same message again.

## Main definitions

- `Specifier.group?`, `FormatToken.group?` — the field a specifier reads into
- `wellFormed` — the formats the round trips hold for
- `ParsedFields.timestamp`, `finishParse` — what `parse_timestamp` does after its format loop

## Main results

- `foldl_readBack_proj` — the fields after reading back a whole format
- `formatTokens_readBack` — the timestamp read back writes the same text
-/

namespace ClpCore

open Date

/-- The local of `parse_timestamp` a specifier reads into. -/
inductive FieldGroup
  | year | month | date | hour | minute | second | millisecond | partOfDay
  deriving DecidableEq, Repr

/-- The local a specifier reads into, if any. -/
def Specifier.group? : Specifier → Option FieldGroup
  | .twoDigitYear | .year => some .year
  | .monthName | .abbrevMonthName | .month => some .month
  | .date | .spaceDate => some .date
  | .hour | .spaceHour | .hour12 | .spaceHour12 => some .hour
  | .minute => some .minute
  | .second => some .second
  | .millisecond => some .millisecond
  | .partOfDay => some .partOfDay
  | .percent | .abbrevDayOfWeek => none

/-- The specifier a token is, if it is a supported one. -/
def FormatToken.specifier? : FormatToken → Option Specifier
  | .specifier c => Specifier.ofChar c
  | _ => none

/-- The local a token reads into, if any. -/
def FormatToken.group? (tok : FormatToken) : Option FieldGroup :=
  tok.specifier?.bind Specifier.group?

/-- Literals and supported specifiers; not a dangling `%`. -/
def FormatToken.supported : FormatToken → Bool
  | .literal _ => true
  | .specifier c => (Specifier.ofChar c).isSome
  | .danglingPercent => false

/-- The formats the round trips hold for: every token supported, two tokens that read into one
local are the same token, `%p` only with an hour, and `%a` only with `%Y`, a month and a day. -/
def wellFormed (toks : List FormatToken) : Bool :=
  toks.all FormatToken.supported &&
  toks.all (fun a => toks.all fun b => !(a.group?.isSome && a.group? == b.group?) || a == b) &&
  (!toks.any (·.group? == some .partOfDay) || toks.any (·.group? == some .hour)) &&
  (!toks.any (·.specifier? == some .abbrevDayOfWeek) ||
    toks.any (·.specifier? == some .year) && toks.any (·.group? == some .month) &&
      toks.any (·.group? == some .date))

theorem wellFormed_init : ∀ p ∈ TimestampPattern.init, wellFormed (tokenize p.format.toList) = true := by
  decide

-- ════════════════════════════════════════════════════════════════════════
-- The fields read back
-- ════════════════════════════════════════════════════════════════════════

/-- A field of `ParsedFields` that each token either leaves alone or sets to one value. -/
def ReadsInto {α : Type} (F : TimestampFields) (π : ParsedFields → α)
    (W : FormatToken → Bool) : Prop :=
  ∀ f tok, π (readBack F f tok) = if W tok then π (readBack F {} tok) else π f

/-- **Run lemma** for one field: after reading back a whole format, the field holds what its one
writer wrote, or what it held before. -/
theorem foldl_readBack_proj {α : Type} {F : TimestampFields} {π : ParsedFields → α}
    {W : FormatToken → Bool} (hπ : ReadsInto F π W) (τ : FormatToken) :
    ∀ (toks : List FormatToken) (f : ParsedFields), (∀ tok ∈ toks, W tok → tok = τ) →
      π (toks.foldl (readBack F) f) = if toks.any W then π (readBack F {} τ) else π f
  | [], f, _ => by simp
  | tok :: toks, f, h => by
    rw [List.foldl_cons, foldl_readBack_proj hπ τ toks _ fun t ht => h t (.tail _ ht), hπ f tok,
      List.any_cons]
    cases hw : W tok
    · simp only [Bool.false_or, Bool.false_eq_true, if_false]
    · obtain rfl := h tok (.head _) hw
      simp only [Bool.true_or, if_true, ite_self]

theorem readBack_eq (F : TimestampFields) (f : ParsedFields) (tok : FormatToken) :
    readBack F f tok = (tok.specifier?.map (Specifier.readBack F f)).getD f := by
  cases tok <;> rfl

/-- A field that the specifiers of one group set, each to one value, and the others leave. -/
theorem readsInto_group {α : Type} {F : TimestampFields} {π : ParsedFields → α} {g : FieldGroup}
    (h : ∀ (s : Specifier) (f : ParsedFields),
      π (s.readBack F f) = if s.group? == some g then π (s.readBack F {}) else π f) :
    ReadsInto F π (·.group? == some g) := by
  intro f tok
  rw [readBack_eq, readBack_eq]
  dsimp only [FormatToken.group?]
  cases tok.specifier? with
  | none => rfl
  | some s => exact h s f

/-- A field that some specifiers set, each to one value, and the others leave. -/
theorem readsInto_specifier {α : Type} {F : TimestampFields} {π : ParsedFields → α}
    {V : Specifier → Bool}
    (h : ∀ (s : Specifier) (f : ParsedFields),
      π (s.readBack F f) = if V s then π (s.readBack F {}) else π f) :
    ReadsInto F π (·.specifier?.any V) := by
  intro f tok
  rw [readBack_eq, readBack_eq]
  dsimp only
  cases tok.specifier? with
  | none => rfl
  | some s => exact h s f

section Fields

variable (F : TimestampFields)

theorem readsInto_year : ReadsInto F ParsedFields.year (·.group? == some .year) :=
  readsInto_group fun s _ => by cases s <;> rfl

theorem readsInto_month : ReadsInto F ParsedFields.month (·.group? == some .month) :=
  readsInto_group fun s _ => by cases s <;> rfl

theorem readsInto_date : ReadsInto F ParsedFields.date (·.group? == some .date) :=
  readsInto_group fun s _ => by cases s <;> rfl

theorem readsInto_hour : ReadsInto F ParsedFields.hour (·.group? == some .hour) :=
  readsInto_group fun s _ => by cases s <;> rfl

theorem readsInto_minute : ReadsInto F ParsedFields.minute (·.group? == some .minute) :=
  readsInto_group fun s _ => by cases s <;> rfl

theorem readsInto_second : ReadsInto F ParsedFields.second (·.group? == some .second) :=
  readsInto_group fun s _ => by cases s <;> rfl

theorem readsInto_millisecond :
    ReadsInto F ParsedFields.millisecond (·.group? == some .millisecond) :=
  readsInto_group fun s _ => by cases s <;> rfl

theorem readsInto_isPm : ReadsInto F ParsedFields.isPm (·.group? == some .partOfDay) :=
  readsInto_group fun s _ => by cases s <;> rfl

theorem readsInto_uses12HourClock :
    ReadsInto F ParsedFields.uses12HourClock
      (·.specifier?.any fun s => s == .hour12 || s == .spaceHour12) :=
  readsInto_specifier fun s _ => by cases s <;> rfl

end Fields

-- ════════════════════════════════════════════════════════════════════════
-- Writing the same text
-- ════════════════════════════════════════════════════════════════════════

/-- `G` has the values of `F` that the specifier writes. -/
def Specifier.Agree (F G : TimestampFields) : Specifier → Prop
  | .percent => True
  | .twoDigitYear => (if G.year ≥ 2000 then G.year - 2000 else G.year - 1900) =
      (if F.year ≥ 2000 then F.year - 2000 else F.year - 1900)
  | .year => G.year = F.year
  | .monthName | .abbrevMonthName | .month => G.month = F.month
  | .date | .spaceDate => G.date = F.date
  | .abbrevDayOfWeek => G.dayOfWeekIx = F.dayOfWeekIx
  | .partOfDay => (G.hour > 11 ↔ F.hour > 11)
  | .hour | .spaceHour => G.hour = F.hour
  | .hour12 | .spaceHour12 => hourOn12HourClock G.hour = hourOn12HourClock F.hour
  | .minute => G.minute = F.minute
  | .second => G.second = F.second
  | .millisecond => G.millisecond = F.millisecond

/-- A specifier writes the same text from two timestamps that agree on what it writes. -/
theorem formatSpecifier_congr {c : Char} {s : Specifier} (hs : Specifier.ofChar c = some s)
    {F G : TimestampFields} (hagree : s.Agree F G) (acc : List Char) :
    formatSpecifier G acc c = formatSpecifier F acc c := by
  unfold Specifier.ofChar at hs
  split at hs <;> cases hs
  all_goals first
    | exact congrArg (fun v => appendPaddedValue v _ _ acc) hagree
    | exact congrArg (fun v : Nat => appendPaddedValue (v : Int) _ _ acc) hagree
    | exact congrArg (fun m : Nat =>
        (Except.ok (acc ++ (List.getD _ (m - 1) "").toList) : Except InsertError _)) hagree
    | exact congrArg (fun d : Nat =>
        (Except.ok (acc ++ (List.getD _ d "").toList) : Except InsertError _)) hagree
    | exact congrArg (fun s : String => (Except.ok (acc ++ s.toList) : Except InsertError _))
        (if_congr hagree rfl rfl)
    | exact (rfl : (Except.ok (acc ++ ['%']) : Except InsertError _) = _)

theorem formatToken_congr {F G : TimestampFields} {tok : FormatToken}
    (hsup : tok.supported = true) (h : ∀ s, tok.specifier? = some s → s.Agree F G)
    (acc : List Char) : formatToken G acc tok = formatToken F acc tok := by
  cases tok with
  | specifier c =>
    obtain ⟨s, hs⟩ := Option.isSome_iff_exists.mp hsup
    exact formatSpecifier_congr hs (h s hs) acc
  | literal c => exact (rfl : (Except.ok (acc ++ [c]) : Except InsertError _) = _)
  | danglingPercent => cases hsup

/-- The format loop writes the same text from two timestamps that agree on what each of its
specifiers writes. -/
theorem formatTokens_congr {F G : TimestampFields} :
    ∀ {toks : List FormatToken}, (∀ tok ∈ toks, tok.supported = true) →
      (∀ tok ∈ toks, ∀ s, tok.specifier? = some s → s.Agree F G) →
        ∀ acc, formatTokens G toks acc = formatTokens F toks acc
  | [], _, _, _ => rfl
  | tok :: toks, hsup, h, acc => by
    rw [formatTokens, formatTokens, formatToken_congr (hsup tok (.head _)) (h tok (.head _))]
    cases formatToken F acc tok with
    | error e => simp only [except_error_bind]
    | ok acc' =>
      simp only [except_ok_bind]
      exact formatTokens_congr (fun t ht => hsup t (.tail _ ht)) (fun t ht => h t (.tail _ ht)) _

-- ════════════════════════════════════════════════════════════════════════
-- Well-formed formats
-- ════════════════════════════════════════════════════════════════════════

theorem group?_of_specifier? {tok : FormatToken} {s : Specifier} (hs : tok.specifier? = some s) :
    tok.group? = s.group? := by
  simp [FormatToken.group?, hs]

theorem specifier?_of_group? {tok : FormatToken} {g : FieldGroup} (hg : tok.group? = some g) :
    ∃ s, tok.specifier? = some s ∧ s.group? = some g := by
  cases h : tok.specifier? with
  | none => simp [FormatToken.group?, h] at hg
  | some s => exact ⟨s, rfl, by rwa [group?_of_specifier? h] at hg⟩

theorem readBack_of_specifier? (F : TimestampFields) (f : ParsedFields) {tok : FormatToken}
    {s : Specifier} (hs : tok.specifier? = some s) : readBack F f tok = s.readBack F f := by
  rw [readBack_eq, hs]
  rfl

theorem readsBack_of_specifier? (F : TimestampFields) {tok : FormatToken} {s : Specifier}
    (hs : tok.specifier? = some s) : readsBack F tok = s.readsBack F := by
  cases tok with
  | specifier c => simp only [readsBack, FormatToken.specifier?] at hs ⊢; simp [hs]
  | _ => cases hs

section WellFormed

variable {toks : List FormatToken} (hwf : wellFormed toks = true)
include hwf

theorem wellFormed_supported : ∀ tok ∈ toks, tok.supported = true := by
  simp only [wellFormed, Bool.and_eq_true, List.all_eq_true] at hwf
  exact hwf.1.1.1

/-- Two tokens of a well-formed format that read into one local are the same token. -/
theorem wellFormed_unique {a b : FormatToken} (ha : a ∈ toks) (hb : b ∈ toks) {g : FieldGroup}
    (hag : a.group? = some g) (hbg : b.group? = some g) : a = b := by
  simp only [wellFormed, Bool.and_eq_true, List.all_eq_true] at hwf
  have := hwf.1.1.2 a ha b hb
  simpa [hag, hbg] using this

theorem wellFormed_partOfDay {tok : FormatToken} (htok : tok ∈ toks)
    (hp : tok.group? = some .partOfDay) : ∃ tok' ∈ toks, tok'.group? = some .hour := by
  simp only [wellFormed, Bool.and_eq_true] at hwf
  have := hwf.1.2
  simp only [Bool.or_eq_true, Bool.not_eq_true', List.any_eq_false, List.any_eq_true,
    beq_iff_eq] at this
  rcases this with h | h
  · exact absurd hp (h tok htok)
  · exact h

theorem wellFormed_dayOfWeek {tok : FormatToken} (htok : tok ∈ toks)
    (ha : tok.specifier? = some .abbrevDayOfWeek) :
    (∃ t ∈ toks, t.specifier? = some .year) ∧ (∃ t ∈ toks, t.group? = some .month) ∧
      (∃ t ∈ toks, t.group? = some .date) := by
  simp only [wellFormed, Bool.and_eq_true] at hwf
  have := hwf.2
  simp only [Bool.or_eq_true, Bool.not_eq_true', List.any_eq_false, List.any_eq_true,
    beq_iff_eq, Bool.and_eq_true] at this
  rcases this with h | h
  · exact absurd ha (h tok htok)
  · exact ⟨h.1.1, h.1.2, h.2⟩

/-- In a well-formed format, a field of a group holds what the group's token read back. -/
theorem foldl_readBack_group {α : Type} {F : TimestampFields} {π : ParsedFields → α}
    {g : FieldGroup} (hπ : ReadsInto F π (·.group? == some g)) {tok : FormatToken}
    (htok : tok ∈ toks) (hg : tok.group? = some g) (f : ParsedFields) :
    π (toks.foldl (readBack F) f) = π (readBack F {} tok) := by
  rw [foldl_readBack_proj hπ tok toks f fun a ha hw =>
    wellFormed_unique hwf ha htok (beq_iff_eq.mp hw) hg]
  rw [if_pos (List.any_eq_true.mpr ⟨tok, htok, by simp [hg]⟩)]

end WellFormed

/-- A field no token of the format writes keeps its value. -/
theorem foldl_readBack_absent {α : Type} {F : TimestampFields} {π : ParsedFields → α}
    {W : FormatToken → Bool} (hπ : ReadsInto F π W) {toks : List FormatToken}
    (h : ∀ tok ∈ toks, W tok = false) (f : ParsedFields) :
    π (toks.foldl (readBack F) f) = π f := by
  rw [foldl_readBack_proj hπ .danglingPercent toks f fun a ha hw => absurd hw (by simp [h a ha])]
  rw [if_neg (by simpa using h)]

-- ════════════════════════════════════════════════════════════════════════
-- The locals read back
-- ════════════════════════════════════════════════════════════════════════

/-- The locals `parse_timestamp` holds after reading back, through the whole format, what
`insert_formatted_timestamp` wrote from `F`. -/
def readBackFields (F : TimestampFields) (toks : List FormatToken) : ParsedFields :=
  toks.foldl (readBack F) {}

/-- The timestamp `parse_timestamp` computes from the locals its format loop read. -/
def ParsedFields.timestamp (f : ParsedFields) : Int :=
  YearMonthDay.toDays ⟨f.year, f.month, f.date⟩ * msPerDay + f.hour24 * 3600000 +
    f.minute * 60000 + f.second * 1000 + f.millisecond -
    YearMonthDay.toDays ⟨1970, 1, 1⟩ * msPerDay

/-- Either no token of the group is in the format and the field keeps its initial value, or
one is and the field holds what its specifier read back. -/
theorem readBackFields_group {α : Type} {F : TimestampFields} {π : ParsedFields → α}
    {g : FieldGroup} (hπ : ReadsInto F π (·.group? == some g)) {toks : List FormatToken}
    (hwf : wellFormed toks = true) :
    π (readBackFields F toks) = π {} ∧ (∀ tok ∈ toks, tok.group? ≠ some g) ∨
      ∃ tok ∈ toks, ∃ s, tok.specifier? = some s ∧ s.group? = some g ∧
        π (readBackFields F toks) = π (s.readBack F {}) := by
  by_cases h : ∃ tok ∈ toks, tok.group? = some g
  · obtain ⟨tok, htok, hg⟩ := h
    obtain ⟨s, hs, hsg⟩ := specifier?_of_group? hg
    refine .inr ⟨tok, htok, s, hs, hsg, ?_⟩
    rw [readBackFields, foldl_readBack_group hwf hπ htok hg, readBack_of_specifier? _ _ hs]
  · push_neg at h
    exact .inl ⟨foldl_readBack_absent hπ (fun tok htok => by simpa using h tok htok) _, h⟩

/-- The field of a group whose token is `tok` holds what `tok`'s specifier read back. -/
theorem readBackFields_of_mem {α : Type} {F : TimestampFields} {π : ParsedFields → α}
    {g : FieldGroup} (hπ : ReadsInto F π (·.group? == some g)) {toks : List FormatToken}
    (hwf : wellFormed toks = true) {tok : FormatToken} (htok : tok ∈ toks) {s : Specifier}
    (hs : tok.specifier? = some s) (hg : s.group? = some g) :
    π (readBackFields F toks) = π (s.readBack F {}) := by
  rw [readBackFields, foldl_readBack_group hwf hπ htok ((group?_of_specifier? hs).trans hg),
    readBack_of_specifier? _ _ hs]

/-- The clock `parse_timestamp` reads the hour on: the 12-hour clock exactly when the format's
hour is `%I` or `%l`. -/
theorem readBackFields_uses12HourClock {F : TimestampFields} {toks : List FormatToken}
    (hwf : wellFormed toks = true) {tok : FormatToken} (htok : tok ∈ toks) {s : Specifier}
    (hs : tok.specifier? = some s) (hg : s.group? = some .hour) :
    (readBackFields F toks).uses12HourClock = (s == .hour12 || s == .spaceHour12) := by
  have honly : ∀ a ∈ toks,
      (a.specifier?.any fun s => s == .hour12 || s == .spaceHour12) = true → a = tok := by
    intro a ha hw
    refine wellFormed_unique hwf ha htok ?_ ((group?_of_specifier? hs).trans hg)
    cases h : a.specifier? with
    | none => rw [h] at hw; cases hw
    | some s' =>
      rw [h] at hw
      rw [group?_of_specifier? h]
      cases s' <;> first | rfl | cases hw
  have hany : (toks.any fun a => a.specifier?.any fun s => s == .hour12 || s == .spaceHour12) =
      (s == .hour12 || s == .spaceHour12) := by
    rw [Bool.eq_iff_iff, List.any_eq_true]
    constructor
    · rintro ⟨a, ha, hw⟩
      rw [honly a ha hw, hs] at hw
      exact hw
    · exact fun h => ⟨tok, htok, by rw [hs]; exact h⟩
  rw [readBackFields, foldl_readBack_proj (readsInto_uses12HourClock F) tok toks {} honly, hany,
    readBack_of_specifier? _ _ hs]
  cases s <;> rfl

/-- The part of day `parse_timestamp` reads: afternoon exactly when the format has `%p` and the
hour written is past 11. -/
theorem readBackFields_isPm {F : TimestampFields} {toks : List FormatToken}
    (hwf : wellFormed toks = true) :
    (readBackFields F toks).isPm =
      (toks.any (·.group? == some .partOfDay) && decide (F.hour > 11)) := by
  rcases readBackFields_group (readsInto_isPm F) hwf with ⟨h, habs⟩ | ⟨tok, htok, s, hs, hg, h⟩
  · rw [h, (List.any_eq_false.mpr fun a ha hw => habs a ha (beq_iff_eq.mp hw))]
    rfl
  · rw [h, List.any_eq_true.mpr ⟨tok, htok, by rw [group?_of_specifier? hs, hg]; rfl⟩]
    cases s <;> first | rfl | cases hg

/-- The hour `parse_timestamp` reads from a 12-hour clock it was written on: the same on that
clock, the same hour when the part of day was read too, and a valid hour in any case. -/
theorem hour24_of_hour12 {f : ParsedFields} {h : Int} (h0 : 0 ≤ h) (hh : h < 24)
    (h12 : hourOn12HourClock h ≤ 12) (hhour : f.hour = (hourOn12HourClock h).toNat)
    (huses : f.uses12HourClock = true) (hpm : f.isPm = true → h > 11) :
    hourOn12HourClock f.hour24 = hourOn12HourClock h ∧
      ((h > 11 → f.isPm = true) → (f.hour24 : Int) = h) ∧ f.hour24 < 24 := by
  -- `hour24` reads only the hour, the clock and the part of day: check all 24 hours on both.
  obtain ⟨n, rfl⟩ := Int.eq_ofNat_of_zero_le h0
  have hf : f.hour24 = ParsedFields.hour24
      { hour := (hourOn12HourClock n).toNat, uses12HourClock := true, isPm := f.isPm } := by
    rw [ParsedFields.hour24, ParsedFields.hour24, hhour, huses]
  have hall : ∀ n : Nat, n < 24 → ∀ pm : Bool, hourOn12HourClock (n : Int) ≤ 12 →
      (pm = true → n > 11) →
      let g : ParsedFields :=
        { hour := (hourOn12HourClock n).toNat, uses12HourClock := true, isPm := pm }
      hourOn12HourClock g.hour24 = hourOn12HourClock n ∧ ((n > 11 → pm = true) → g.hour24 = n) ∧
        g.hour24 < 24 := by
    decide
  rw [hf]
  obtain ⟨h1, h2, h3⟩ := hall n (by omega) f.isPm h12 fun hp => by exact_mod_cast hpm hp
  exact ⟨h1, fun hp => by exact_mod_cast h2 fun hn => hp (by exact_mod_cast hn), h3⟩

theorem hour24_of_uses24HourClock {f : ParsedFields} (huses : f.uses12HourClock = false) :
    f.hour24 = f.hour := by
  rw [ParsedFields.hour24, huses, if_neg Bool.false_ne_true]

/-- A field whose group's specifiers all read back `v` holds `v` when the format has the group. -/
theorem readBackFields_eq_of_mem {F : TimestampFields} {toks : List FormatToken}
    {π : ParsedFields → Nat} {g : FieldGroup} (hπ : ReadsInto F π (·.group? == some g))
    (hwf : wellFormed toks = true) {v : Nat}
    (hv : ∀ s : Specifier, s.group? = some g → π (s.readBack F {}) = v) {tok : FormatToken}
    (htok : tok ∈ toks) (hg : tok.group? = some g) : π (readBackFields F toks) = v := by
  obtain ⟨s, hs, hsg⟩ := specifier?_of_group? hg
  rw [readBackFields_of_mem hπ hwf htok hs hsg, hv s hsg]

/-- A bound that a field's initial value and every read-back value of its group satisfy. -/
theorem readBackFields_lt {F : TimestampFields} {toks : List FormatToken}
    {π : ParsedFields → Nat} {g : FieldGroup} (hπ : ReadsInto F π (·.group? == some g))
    (hwf : wellFormed toks = true) {n : Nat} (h0 : π {} < n)
    (hv : ∀ s : Specifier, s.group? = some g → π (s.readBack F {}) < n) :
    π (readBackFields F toks) < n := by
  rcases readBackFields_group hπ hwf with ⟨h, -⟩ | ⟨-, -, s, -, hg, h⟩
  · exact h ▸ h0
  · exact h ▸ hv s hg

theorem readsBack_of_mem {F : TimestampFields} {toks : List FormatToken}
    (hrb : toks.all (readsBack F) = true) {tok : FormatToken} (htok : tok ∈ toks) {s : Specifier}
    (hs : tok.specifier? = some s) : s.readsBack F = true :=
  readsBack_of_specifier? F hs ▸ List.all_eq_true.mp hrb tok htok

section Agreement

variable {F : TimestampFields} {toks : List FormatToken} (hwf : wellFormed toks = true)
include hwf

theorem readBackFields_month {tok : FormatToken} (htok : tok ∈ toks)
    (hg : tok.group? = some .month) : (readBackFields F toks).month = F.month :=
  readBackFields_eq_of_mem (readsInto_month F) hwf (fun s hg => by cases s <;> first | rfl | cases hg)
    htok hg

theorem readBackFields_date {tok : FormatToken} (htok : tok ∈ toks)
    (hg : tok.group? = some .date) : (readBackFields F toks).date = F.date :=
  readBackFields_eq_of_mem (readsInto_date F) hwf (fun s hg => by cases s <;> first | rfl | cases hg)
    htok hg

theorem readBackFields_minute {tok : FormatToken} (htok : tok ∈ toks)
    (hg : tok.group? = some .minute) : (readBackFields F toks).minute = F.minute :=
  readBackFields_eq_of_mem (readsInto_minute F) hwf (fun s hg => by cases s <;> first | rfl | cases hg)
    htok hg

theorem readBackFields_second {tok : FormatToken} (htok : tok ∈ toks)
    (hg : tok.group? = some .second) : (readBackFields F toks).second = F.second :=
  readBackFields_eq_of_mem (readsInto_second F) hwf (fun s hg => by cases s <;> first | rfl | cases hg)
    htok hg

theorem readBackFields_millisecond {tok : FormatToken} (htok : tok ∈ toks)
    (hg : tok.group? = some .millisecond) :
    (readBackFields F toks).millisecond = F.millisecond :=
  readBackFields_eq_of_mem (readsInto_millisecond F) hwf
    (fun s hg => by cases s <;> first | rfl | cases hg) htok hg

variable (hF : F.InRange) (hrb : toks.all (readsBack F) = true)
include hF hrb

/-- The hour read back from the format's hour token: the same on the 12-hour clock, the same
hour when the token is `%H` or `%k` or the format has a part of day, and a valid hour. -/
theorem readBackFields_hour24_of_mem {tok : FormatToken} (htok : tok ∈ toks) {s : Specifier}
    (hs : tok.specifier? = some s) (hg : s.group? = some .hour) :
    (readBackFields F toks).hour24 < 24 ∧
      hourOn12HourClock (readBackFields F toks).hour24 = hourOn12HourClock F.hour ∧
      (s = .hour ∨ s = .spaceHour ∨ toks.any (·.group? == some .partOfDay) = true →
        (readBackFields F toks).hour24 = F.hour) := by
  have hhour := readBackFields_of_mem (readsInto_hour F) hwf htok hs hg
  have huses := readBackFields_uses12HourClock (F := F) hwf htok hs hg
  have hpm := readBackFields_isPm (F := F) hwf
  have hsrb := readsBack_of_mem hrb htok hs
  cases s
  case hour | spaceHour =>
    rw [hour24_of_uses24HourClock huses, hhour]
    have h : ((F.hour.toNat : Nat) : Int) = F.hour := Int.toNat_of_nonneg hF.hour_nonneg
    exact ⟨show F.hour.toNat < 24 by have := hF.hour_lt; omega, congrArg hourOn12HourClock h,
      fun _ => h⟩
  case hour12 | spaceHour12 =>
    obtain ⟨h1, h2, h3⟩ := hour24_of_hour12 hF.hour_nonneg hF.hour_lt (of_decide_eq_true hsrb)
      hhour huses
      fun h => of_decide_eq_true (Bool.and_eq_true _ _ ▸ hpm ▸ h).2
    refine ⟨h3, h1, ?_⟩
    rintro (h | h | h)
    · cases h
    · cases h
    · exact h2 fun hgt => by rw [hpm, h, decide_eq_true hgt]; rfl
  all_goals cases hg

theorem readBackFields_hour24_lt : (readBackFields F toks).hour24 < 24 := by
  rcases readBackFields_group (readsInto_hour F) hwf with ⟨h, habs⟩ | ⟨tok, htok, s, hs, hg, -⟩
  · have huses : (readBackFields F toks).uses12HourClock = false :=
      foldl_readBack_absent (readsInto_uses12HourClock F) (fun a ha => by
        cases h' : a.specifier? with
        | none => rfl
        | some s' =>
          have := group?_of_specifier? h' ▸ habs a ha
          cases s' <;> first | rfl | exact absurd rfl this) {}
    rw [hour24_of_uses24HourClock huses, h]
    decide
  · exact (readBackFields_hour24_of_mem hwf hF hrb htok hs hg).1

variable (hdow : F.dayOfWeekIx = weekdayFromDays (YearMonthDay.toDays ⟨F.year, F.month, F.date⟩))
  (hvalid : YearMonthDay.IsValid ⟨(readBackFields F toks).year, (readBackFields F toks).month,
    (readBackFields F toks).date⟩)
include hdow hvalid

/-- The timestamp read back agrees with `F` on what each specifier of the format writes. -/
theorem readBackFields_agree {tok : FormatToken} (htok : tok ∈ toks) {s : Specifier}
    (hs : tok.specifier? = some s) :
    s.Agree F (TimestampFields.ofTimestamp (readBackFields F toks).timestamp) := by
  have hminute : (readBackFields F toks).minute < 60 :=
    readBackFields_lt (readsInto_minute F) hwf (by decide)
      fun s hg => by cases s <;> first | exact hF.minute_lt | cases hg
  have hsecond : (readBackFields F toks).second < 60 :=
    readBackFields_lt (readsInto_second F) hwf (by decide)
      fun s hg => by cases s <;> first | exact hF.second_lt | cases hg
  have hms : (readBackFields F toks).millisecond < 1000 :=
    readBackFields_lt (readsInto_millisecond F) hwf (by decide)
      fun s hg => by cases s <;> first | exact hF.millisecond_lt | cases hg
  rw [show TimestampFields.ofTimestamp (readBackFields F toks).timestamp = _ from
    ofTimestamp_ofFields hvalid (readBackFields_hour24_lt hwf hF hrb) hminute hsecond hms]
  have hsrb := readsBack_of_mem hrb htok hs
  have hgroup := group?_of_specifier? hs
  cases s
  case percent => trivial
  case twoDigitYear =>
    show (if ((readBackFields F toks).year : Int) ≥ 2000 then _ else _) = _
    rw [readBackFields_of_mem (readsInto_year F) hwf htok hs rfl]
    simp only [Specifier.readBack, Specifier.readsBack, decide_eq_true_eq] at hsrb ⊢
    split_ifs at * <;> omega
  case year =>
    rw [readBackFields_of_mem (readsInto_year F) hwf htok hs rfl]
    exact Int.toNat_of_nonneg (of_decide_eq_true hsrb).1
  case monthName | abbrevMonthName | month => exact readBackFields_month hwf htok hgroup
  case date | spaceDate => exact readBackFields_date hwf htok hgroup
  case abbrevDayOfWeek =>
    obtain ⟨⟨ty, hty, hsy⟩, ⟨tm, htm, hgm⟩, ⟨td, htd, hgd⟩⟩ := wellFormed_dayOfWeek hwf htok hs
    have hyear : ((readBackFields F toks).year : Int) = F.year := by
      rw [readBackFields_of_mem (readsInto_year F) hwf hty hsy rfl]
      exact Int.toNat_of_nonneg (of_decide_eq_true (readsBack_of_mem hrb hty hsy)).1
    show weekdayFromDays (YearMonthDay.toDays ⟨(readBackFields F toks).year, _, _⟩) = _
    rw [hdow, hyear, readBackFields_month hwf htm hgm, readBackFields_date hwf htd hgd]
  case partOfDay =>
    obtain ⟨τ, hτ, hτg⟩ := wellFormed_partOfDay hwf htok hgroup
    obtain ⟨s', hs', hs'g⟩ := specifier?_of_group? hτg
    have h := (readBackFields_hour24_of_mem hwf hF hrb hτ hs' hs'g).2.2
      (.inr (.inr (List.any_eq_true.mpr ⟨tok, htok, by rw [hgroup]; rfl⟩)))
    show ((readBackFields F toks).hour24 : Int) > 11 ↔ F.hour > 11
    rw [h]
  case hour => exact (readBackFields_hour24_of_mem hwf hF hrb htok hs rfl).2.2 (.inl rfl)
  case spaceHour => exact (readBackFields_hour24_of_mem hwf hF hrb htok hs rfl).2.2 (.inr (.inl rfl))
  case hour12 | spaceHour12 => exact (readBackFields_hour24_of_mem hwf hF hrb htok hs rfl).2.1
  case minute => exact readBackFields_minute hwf htok hgroup
  case second => exact readBackFields_second hwf htok hgroup
  case millisecond => exact readBackFields_millisecond hwf htok hgroup

/-- **The timestamp read back writes the same text.** When every field the formatter wrote from
`F` reads back and the date read is valid, the timestamp `parse_timestamp` computes from what it
read makes the format loop write exactly what it wrote from `F`. -/
theorem formatTokens_readBack (acc : List Char) :
    formatTokens (TimestampFields.ofTimestamp (readBackFields F toks).timestamp) toks acc =
      formatTokens F toks acc :=
  formatTokens_congr (wellFormed_supported hwf)
    (fun _ htok _ hs => readBackFields_agree hwf hF hrb hdow hvalid htok hs) acc

end Agreement

end ClpCore
