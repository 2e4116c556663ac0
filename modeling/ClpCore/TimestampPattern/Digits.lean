import ClpCore.TimestampPattern.Defs

/-!
# Decimal fields

`append_padded_value` writes a number with `std::to_string` and pads it on the left to the
field's width; `convert_string_to_number` skips the padding and accumulates the digits that
follow. This file shows which numbers fit a field, and that reading a written field back gives
the number when it is not negative and lies in the range the parser checks, and a failed parse
otherwise.

## Main results

- `toDigits_ten` — the last decimal digit comes off the end of `Nat.toDigits`
- `appendPaddedValue_eq_error_iff` — a field throws exactly when the number is too wide for it
- `parseNumericField_appendPaddedValue` — what the parser reads from a written field
-/

namespace ClpCore

-- ════════════════════════════════════════════════════════════════════════
-- Decimal digits
-- ════════════════════════════════════════════════════════════════════════

theorem toDigitsCore_ten : ∀ (n fuel : Nat) (ds : List Char), n < fuel →
    Nat.toDigitsCore 10 fuel n ds = Nat.toDigits 10 n ++ ds
  | n, fuel + 1, ds, h => by
    unfold Nat.toDigits
    simp only [Nat.toDigitsCore]
    split
    · rfl
    · have : n / 10 < n := Nat.div_lt_self (by omega) (by norm_num)
      rw [toDigitsCore_ten (n / 10) fuel _ (by omega), toDigitsCore_ten (n / 10) n _ (by omega)]
      simp

/-- The last digit comes off the end. -/
theorem toDigits_ten (n : Nat) : Nat.toDigits 10 n =
    (if n / 10 = 0 then [] else Nat.toDigits 10 (n / 10)) ++ [Nat.digitChar (n % 10)] := by
  conv_lhs => unfold Nat.toDigits
  simp only [Nat.toDigitsCore]
  split
  · rfl
  · exact toDigitsCore_ten _ _ _ (Nat.div_lt_self (by omega) (by norm_num))

theorem toDigits_ne_nil (n : Nat) : Nat.toDigits 10 n ≠ [] := by
  rw [toDigits_ten]
  simp

/-- A number below `10 ^ w` has at most `w` digits. -/
theorem toDigits_length_le : ∀ {w n : Nat}, n < 10 ^ w → 1 ≤ w → (Nat.toDigits 10 n).length ≤ w
  | 0, _, _, hw => absurd hw (by decide)
  | w + 1, n, hn, _ => by
    rw [toDigits_ten, List.length_append, List.length_singleton]
    split
    · simp
    · have : n / 10 < 10 ^ w := by rw [Nat.pow_succ] at hn; omega
      have := toDigits_length_le this (by rcases w with _ | w <;> simp_all)
      omega

/-- Only a number below `10 ^ w` has at most `w` digits. -/
theorem lt_pow_of_toDigits_length_le : ∀ {w n : Nat}, (Nat.toDigits 10 n).length ≤ w → n < 10 ^ w
  | 0, n, h => absurd h (by simpa [List.length_eq_zero] using toDigits_ne_nil n)
  | w + 1, n, h => by
    rw [toDigits_ten, List.length_append, List.length_singleton] at h
    have hpow : 10 ^ (w + 1) = 10 ^ w * 10 := pow_succ 10 w
    have hpos : 0 < 10 ^ w := Nat.pos_pow_of_pos w (by norm_num)
    split at h
    · omega
    · have := lt_pow_of_toDigits_length_le (w := w) (n := n / 10) (by omega)
      omega

theorem toDigits_length_le_iff {w n : Nat} (hw : 1 ≤ w) :
    (Nat.toDigits 10 n).length ≤ w ↔ n < 10 ^ w :=
  ⟨lt_pow_of_toDigits_length_le, fun h => toDigits_length_le h hw⟩

/-- `std::to_string` of `v` has at most `w` characters exactly when `v` lies strictly between
`-10 ^ (w - 1)` and `10 ^ w`: a negative number spends one character on its sign. -/
theorem toString_length_le_iff {v : Int} {w : Nat} (hw : 1 ≤ w) :
    (toString v).toList.length ≤ w ↔ -(10 ^ (w - 1) : Int) < v ∧ v < 10 ^ w := by
  have hpos : (0 : Int) < 10 ^ (w - 1) := by positivity
  cases v with
  | ofNat n =>
    show (Nat.toDigits 10 n).length ≤ w ↔ -(10 ^ (w - 1) : Int) < (n : Int) ∧ (n : Int) < 10 ^ w
    have hcast : (n : Int) < 10 ^ w ↔ n < 10 ^ w := by norm_cast
    rw [toDigits_length_le_iff hw, hcast]
    exact ⟨fun h => ⟨by omega, h⟩, And.right⟩
  | negSucc m =>
    show ('-' :: Nat.toDigits 10 (m + 1)).length ≤ w ↔
      -(10 ^ (w - 1) : Int) < -((m + 1 : Nat) : Int) ∧ -((m + 1 : Nat) : Int) < 10 ^ w
    have hcast : ((m + 1 : Nat) : Int) < 10 ^ (w - 1) ↔ m + 1 < 10 ^ (w - 1) := by norm_cast
    have hlen := toDigits_ne_nil (m + 1)
    rw [List.length_cons]
    rcases Nat.lt_or_ge 1 w with h1 | h1
    · have hiff := toDigits_length_le_iff (n := m + 1) (show 1 ≤ w - 1 by omega)
      constructor
      · intro h
        have : (0 : Int) < 10 ^ w := by positivity
        exact ⟨by have := hcast.mpr (hiff.mp (by omega)); omega, by omega⟩
      · rintro ⟨h, -⟩
        have := hiff.mpr (hcast.mp (by omega))
        omega
    · obtain rfl : w = 1 := by omega
      have : (Nat.toDigits 10 (m + 1)).length ≠ 0 := by simpa [List.length_eq_zero]
      simp only [Nat.sub_self, pow_zero]
      omega

theorem digitChar_digit {d : Nat} (h : d < 10) :
    ¬(Nat.digitChar d < '0' ∨ Nat.digitChar d > '9') ∧ (Nat.digitChar d).toNat - '0'.toNat = d ∧
      (Nat.digitChar d = '0' ↔ d = 0) := by
  interval_cases d <;> decide

/-- The value of the decimal digits `ds` after `value`, as `convert_string_to_number`
accumulates it. -/
def digitsValue (value : Nat) (ds : List Char) : Nat :=
  ds.foldl (fun v c => v * 10 + (c.toNat - '0'.toNat)) value

theorem toDigits_digits (n : Nat) : ∀ c ∈ Nat.toDigits 10 n, ¬(c < '0' ∨ c > '9') := by
  induction n using Nat.strong_induction_on with
  | _ n ih =>
    rw [toDigits_ten]
    intro c hc
    rcases List.mem_append.mp hc with hc | hc
    · split at hc
      · cases hc
      · exact ih _ (Nat.div_lt_self (by omega) (by norm_num)) c hc
    · rw [List.mem_singleton.mp hc]
      exact (digitChar_digit (Nat.mod_lt n (by norm_num))).1

theorem digitsValue_append_singleton (value : Nat) (ds : List Char) (c : Char) :
    digitsValue value (ds ++ [c]) = digitsValue value ds * 10 + (c.toNat - '0'.toNat) := by
  simp [digitsValue]

theorem digitsValue_toDigits (n : Nat) : digitsValue 0 (Nat.toDigits 10 n) = n := by
  induction n using Nat.strong_induction_on with
  | _ n ih =>
    rw [toDigits_ten, digitsValue_append_singleton,
      (digitChar_digit (Nat.mod_lt n (by norm_num : 10 > 0))).2.1]
    split
    · simp only [digitsValue, List.foldl_nil]
      omega
    · rw [ih _ (Nat.div_lt_self (by omega) (by norm_num))]
      omega

/-- A positive number's decimal text does not start with `0`. -/
theorem toDigits_head_ne_zero {n : Nat} (hn : n ≠ 0) :
    ∃ c ds, Nat.toDigits 10 n = c :: ds ∧ c ≠ '0' := by
  induction n using Nat.strong_induction_on with
  | _ n ih =>
    rw [toDigits_ten]
    split
    · next h =>
      refine ⟨_, [], rfl, ?_⟩
      rw [Ne, (digitChar_digit (Nat.mod_lt n (by norm_num))).2.2]
      omega
    · next h =>
      obtain ⟨c, ds, hds, hc⟩ := ih _ (Nat.div_lt_self (by omega) (by norm_num)) h
      exact ⟨c, ds ++ _, by rw [hds]; rfl, hc⟩

-- ════════════════════════════════════════════════════════════════════════
-- Reading a written field
-- ════════════════════════════════════════════════════════════════════════

theorem charAt_append_cons (pre post : List Char) (c : Char) :
    charAt (pre ++ c :: post) pre.length = .ok c := by
  unfold charAt
  rw [List.get?_eq_getElem?, List.getElem?_append_right (le_refl _), Nat.sub_self]
  simp

theorem skipPadding_replicate (pad : Char) (post : List Char) (j : Nat) :
    ∀ (k : Nat) (pre : List Char),
      skipPadding (pre ++ List.replicate k pad ++ post) pad (k + j) pre.length =
        skipPadding (pre ++ List.replicate k pad ++ post) pad j (pre.length + k)
  | 0, pre => by simp
  | k + 1, pre => by
    have hc : charAt (pre ++ List.replicate (k + 1) pad ++ post) pre.length = .ok pad := by
      rw [List.replicate_succ, List.append_assoc, List.cons_append]
      exact charAt_append_cons _ _ _
    have ih := skipPadding_replicate pad post j k (pre ++ [pad])
    rw [show pre ++ [pad] ++ List.replicate k pad ++ post =
        pre ++ List.replicate (k + 1) pad ++ post by simp [List.replicate_succ],
      List.length_append, List.length_singleton] at ih
    rw [show k + 1 + j = (k + j) + 1 by omega, skipPadding, hc, except_ok_bind, if_pos rfl, ih]
    congr 1
    omega

theorem skipPadding_stop {pad c : Char} (hc : c ≠ pad) (pre post : List Char) (j : Nat) :
    skipPadding (pre ++ c :: post) pad (j + 1) pre.length = .ok pre.length := by
  simp [skipPadding, charAt_append_cons, Ne.symm hc]

theorem accumulateDigits_digits (rest : List Char) : ∀ (ds pre : List Char) (value : Nat),
    (∀ c ∈ ds, ¬(c < '0' ∨ c > '9')) →
      accumulateDigits (pre ++ ds ++ rest) ds.length pre.length value =
        .ok (some (digitsValue value ds))
  | [], _, _, _ => rfl
  | c :: ds, pre, value, h => by
    have := accumulateDigits_digits rest ds (pre ++ [c]) (value * 10 + (c.toNat - '0'.toNat))
      fun d hd => h d (.tail _ hd)
    simp only [List.append_assoc, List.singleton_append, List.length_append,
      List.length_singleton] at this
    simp only [List.length_cons, accumulateDigits, List.append_assoc, List.cons_append,
      charAt_append_cons, except_ok_bind, h c (.head _), if_false]
    exact this

theorem accumulateDigits_nonDigit {c : Char} (hc : c < '0' ∨ c > '9') (pre post : List Char)
    (j value : Nat) : accumulateDigits (pre ++ c :: post) (j + 1) pre.length value = .ok none := by
  simp [accumulateDigits, charAt_append_cons, hc]

/-- After the padding, the parser reads the field from its first character that is not padding. -/
theorem convertStringToNumber_padded {pad c : Char} (hc : c ≠ pad) (pre : List Char) (k : Nat)
    (ds rest : List Char) :
    convertStringToNumber (pre ++ List.replicate k pad ++ c :: ds ++ rest) pre.length
        (pre.length + (k + (c :: ds).length)) pad =
      accumulateDigits (pre ++ List.replicate k pad ++ c :: ds ++ rest) (c :: ds).length
        (pre.length + k) 0 := by
  have hstop := skipPadding_stop hc (pre ++ List.replicate k pad) (ds ++ rest) ds.length
  simp only [List.length_append, List.length_replicate, List.append_assoc,
    List.cons_append] at hstop
  have hskip := skipPadding_replicate pad (c :: (ds ++ rest)) (ds.length + 1) k pre
  simp only [List.append_assoc, List.cons_append, hstop] at hskip
  simp only [convertStringToNumber, Nat.add_sub_cancel_left, List.length_cons,
    List.append_assoc, List.cons_append, hskip, except_ok_bind]
  congr 1
  omega

/-- A field padded with `0` that holds the number zero is all padding, and reads as zero. -/
theorem convertStringToNumber_zeros (pre rest : List Char) (w : Nat) :
    convertStringToNumber (pre ++ List.replicate w '0' ++ rest) pre.length (pre.length + w) '0' =
      .ok (some 0) := by
  have hskip := skipPadding_replicate '0' rest 0 w pre
  simp only [Nat.add_zero] at hskip
  simp only [convertStringToNumber, Nat.add_sub_cancel_left, hskip, skipPadding, except_ok_bind,
    Nat.sub_self]
  rfl

/-- The parser reads the number `std::to_string` wrote, padded to `w` characters, and fails on a
negative one. -/
theorem convertStringToNumber_written {v : Int} {pad : Char} {w : Nat}
    (hpad : pad = '0' ∨ pad = ' ') (hlen : (toString v).toList.length ≤ w) (pre rest : List Char) :
    convertStringToNumber
        (pre ++ (List.replicate (w - (toString v).toList.length) pad ++ (toString v).toList) ++ rest)
        pre.length (pre.length + w) pad =
      .ok (if 0 ≤ v then some v.toNat else none) := by
  obtain ⟨c, ds, hcs, hc⟩ : ∃ c ds, (toString v).toList = c :: ds ∧
      (c ≠ pad ∨ v = 0 ∧ pad = '0') := by
    cases v with
    | ofNat n =>
      obtain ⟨c, ds, hds⟩ := List.exists_cons_of_ne_nil (toDigits_ne_nil n)
      refine ⟨c, ds, hds, ?_⟩
      have hdig := toDigits_digits n c (by rw [hds]; exact .head _)
      rcases hpad with rfl | rfl
      · by_cases hn : n = 0
        · exact .inr ⟨by rw [hn]; rfl, rfl⟩
        · obtain ⟨c', ds', hds', hc'⟩ := toDigits_head_ne_zero hn
          rw [hds] at hds'
          exact .inl ((List.cons.inj hds').1 ▸ hc')
      · exact .inl fun h => hdig (.inl (h ▸ by decide))
    | negSucc m => exact ⟨'-', _, rfl, .inl (by rcases hpad with rfl | rfl <;> decide)⟩
  rcases hc with hc | ⟨rfl, rfl⟩
  · have hw : w = (w - (c :: ds).length) + (c :: ds).length := by rw [← hcs]; omega
    have e : pre ++ (List.replicate (w - (c :: ds).length) pad ++ c :: ds) ++ rest =
        pre ++ List.replicate (w - (c :: ds).length) pad ++ c :: ds ++ rest := by simp
    rw [hcs, e]
    conv => lhs; arg 3; rw [hw]
    rw [convertStringToNumber_padded hc]
    cases v with
    | ofNat n =>
      have hdig : ∀ d ∈ c :: ds, ¬(d < '0' ∨ d > '9') := hcs ▸ toDigits_digits n
      have := accumulateDigits_digits rest (c :: ds) (pre ++ List.replicate (w - (c :: ds).length) pad)
        0 hdig
      rw [List.length_append, List.length_replicate] at this
      rw [this, ← hcs, show (toString (Int.ofNat n)).toList = Nat.toDigits 10 n from rfl,
        digitsValue_toDigits]
      simp
    | negSucc m =>
      obtain ⟨rfl, -⟩ := List.cons.inj (hcs.symm.trans
        (show (toString (Int.negSucc m)).toList = '-' :: Nat.toDigits 10 (m + 1) from rfl))
      have hnd := accumulateDigits_nonDigit (show '-' < '0' ∨ '-' > '9' by decide)
        (pre ++ List.replicate (w - ('-' :: ds).length) pad) (ds ++ rest) ds.length 0
      simp only [List.length_append, List.length_replicate, List.append_assoc,
        List.cons_append, List.length_cons] at hnd ⊢
      rw [hnd]
      simp
  · have h1 : (toString (0 : Int)).toList.length = 1 := rfl
    have h2 : List.replicate (w - 1) '0' ++ (toString (0 : Int)).toList = List.replicate w '0' := by
      rw [show (toString (0 : Int)).toList = List.replicate 1 '0' from rfl, ← List.replicate_add]
      congr 1
      omega
    rw [h1, h2, convertStringToNumber_zeros]
    rfl

/-- `append_padded_value` fits a value that is not negative and has at most `w` digits. -/
theorem appendPaddedValue_ok {v : Int} {w : Nat} (h0 : 0 ≤ v) (hv : v < 10 ^ w) (hw : 1 ≤ w)
    (pad : Char) (acc : List Char) : ∃ txt, appendPaddedValue v pad w acc = .ok txt := by
  obtain ⟨n, rfl⟩ := Int.eq_ofNat_of_zero_le h0
  have hlen : (toString (n : Int)).toList.length ≤ w :=
    toDigits_length_le (by exact_mod_cast hv) hw
  exact ⟨_, if_pos hlen⟩

/-- `append_padded_value` throws only `std::length_error`, and exactly when the text of the
number is wider than the field. -/
theorem appendPaddedValue_eq_error_iff {v : Int} {pad : Char} {w : Nat} (hw : 1 ≤ w)
    {acc : List Char} {e : InsertError} :
    appendPaddedValue v pad w acc = .error e ↔
      ¬(-(10 ^ (w - 1) : Int) < v ∧ v < 10 ^ w) ∧ e = .lengthError := by
  rw [appendPaddedValue, ← toString_length_le_iff hw]
  split
  · next h => simp only [h, not_true_eq_false, false_and, iff_false]; exact fun h' => by cases h'
  · next h => simp only [h, not_false_eq_true, true_and, Except.error.injEq, eq_comm]

/-- **Reading back a written field.** What `append_padded_value` writes for `v` reads back as
`v` when `v` is not negative and lies in `[lo, hi]`, and as a failed parse otherwise. -/
theorem parseNumericField_appendPaddedValue {v : Int} {pad : Char} {w : Nat} {txt : List Char}
    (hpad : pad = '0' ∨ pad = ' ') (h : appendPaddedValue v pad w [] = .ok txt)
    (pre rest : List Char) (lo hi : Nat) :
    parseNumericField (pre ++ txt ++ rest) pre.length w pad lo hi =
      .ok (if 0 ≤ v ∧ lo ≤ v ∧ v ≤ hi then some v.toNat else none) := by
  simp only [appendPaddedValue] at h
  split at h
  · next hlen =>
    cases h
    unfold parseNumericField
    rw [if_neg (by simp; omega), List.nil_append, convertStringToNumber_written hpad hlen]
    by_cases h0 : 0 ≤ v
    · simp only [h0, if_true, except_ok_bind, true_and]
      split_ifs <;> first | rfl | omega
    · simp [h0]
  · cases h

end ClpCore
