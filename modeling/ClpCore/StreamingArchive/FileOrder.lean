import Mathlib

/-!
# The order of files in a segment

`streaming_archive::writer::Archive` keeps the files of an open segment in a `std::set` ordered
by `FileGroupIdAndEndTimestampLTSetComparator`: by group ID, then end timestamp, then original
path, then file ID. This file models the comparator and shows that it is the lexicographic order
of that key and a strict weak ordering, as `std::set` requires.

## Main definitions

- `Uuid`, `memcmp` — `boost::uuids::uuid` and its `operator<`
- `File` — the fields of a file that the comparator reads
- `fileGroupIdAndEndTimestampLt` — the comparator
- `KeyLt`, `SameKey` — the lexicographic order and the equality of keys

## Main results

- `fileGroupIdAndEndTimestampLt_strictWeakOrder`
- `segment_groups_contiguous` — in a set ordered by the comparator, the files of a group are
  contiguous and ordered by end timestamp
-/

namespace ClpCore.StreamingArchive

/-- `boost::uuids::uuid`: sixteen bytes. -/
structure Uuid where
  data : List UInt8
  length_data : data.length = 16

/-- `std::memcmp` of two byte sequences: the order of the first pair of bytes that differ, each
byte compared as an `unsigned char`. -/
def memcmp : List UInt8 → List UInt8 → Ordering
  | a :: as, b :: bs => if a < b then .lt else if b < a then .gt else memcmp as bs
  | _, _ => .eq

/-- `boost::uuids::operator<`: `memcmp(lhs.data, rhs.data, 16) < 0`. -/
instance : LT Uuid := ⟨fun lhs rhs => memcmp lhs.data rhs.data = .lt⟩

instance (a b : Uuid) : Decidable (a < b) := inferInstanceAs (Decidable (_ = _))

/-- The fields of a `streaming_archive::writer::File` that the segment's file order reads. -/
structure File where
  id : Uuid
  origPath : String
  groupId : UInt64
  endTs : Int

/-- `Archive::FileGroupIdAndEndTimestampLTSetComparator::operator()`. -/
def fileGroupIdAndEndTimestampLt (lhs rhs : File) : Bool :=
  if lhs.groupId ≠ rhs.groupId then decide (lhs.groupId < rhs.groupId)
  else if lhs.endTs ≠ rhs.endTs then decide (lhs.endTs < rhs.endTs)
  else if lhs.origPath ≠ rhs.origPath then decide (lhs.origPath < rhs.origPath)
  else decide (lhs.id < rhs.id)

/-- The key `(group_id, end_ts, orig_path, id)` of `a` is lexicographically below that of `b`. -/
def KeyLt (a b : File) : Prop :=
  a.groupId < b.groupId ∨ a.groupId = b.groupId ∧ (a.endTs < b.endTs ∨ a.endTs = b.endTs ∧
    (a.origPath < b.origPath ∨ a.origPath = b.origPath ∧ a.id < b.id))

/-- `a` and `b` have the same key. -/
def SameKey (a b : File) : Prop :=
  a.groupId = b.groupId ∧ a.endTs = b.endTs ∧ a.origPath = b.origPath ∧ a.id = b.id

-- ════════════════════════════════════════════════════════════════════════
-- Byte-wise comparison
-- ════════════════════════════════════════════════════════════════════════

theorem uint8_trichotomous (a b : UInt8) : a < b ∨ a = b ∨ b < a := by
  rcases Nat.lt_trichotomy a.toNat b.toNat with h | h | h
  · exact .inl h
  · exact .inr (.inl (UInt8.toNat.inj h))
  · exact .inr (.inr h)

theorem memcmp_self : ∀ as : List UInt8, memcmp as as = .eq
  | [] => rfl
  | a :: as => by simp [memcmp, memcmp_self as]

theorem memcmp_lt_iff_gt : ∀ as bs : List UInt8, memcmp as bs = .lt ↔ memcmp bs as = .gt
  | [], [] | [], _ :: _ | _ :: _, [] => by simp [memcmp]
  | a :: as, b :: bs => by
    simp only [memcmp]
    rcases uint8_trichotomous a b with h | rfl | h
    · simp [h, UInt8.lt_asymm h]
    · simp [memcmp_lt_iff_gt as bs]
    · simp [h, UInt8.lt_asymm h]

theorem memcmp_trans : ∀ as bs cs : List UInt8,
    memcmp as bs = .lt → memcmp bs cs = .lt → memcmp as cs = .lt
  | a :: as, b :: bs, c :: cs, hab, hbc => by
    simp only [memcmp] at hab hbc ⊢
    rcases uint8_trichotomous a b with h1 | rfl | h1
    · rcases uint8_trichotomous b c with h2 | rfl | h2
      · simp [UInt8.lt_trans h1 h2]
      · simp [h1]
      · simp [h2, UInt8.lt_asymm h2] at hbc
    · rcases uint8_trichotomous a c with h2 | rfl | h2
      · simp [h2]
      · simp only [UInt8.lt_irrefl, if_false] at hab hbc ⊢
        exact memcmp_trans as bs cs hab hbc
      · simp [h2, UInt8.lt_asymm h2] at hbc
    · simp [h1, UInt8.lt_asymm h1] at hab
  | [], _, _, h, _ | _ :: _, [], _, h, _ | _ :: _, _ :: _, [], _, h => by simp [memcmp] at h

theorem eq_of_memcmp_eq : ∀ as bs : List UInt8, as.length = bs.length → memcmp as bs = .eq →
    as = bs
  | [], [], _, _ => rfl
  | a :: as, b :: bs, hl, h => by
    simp only [memcmp] at h
    rcases uint8_trichotomous a b with h1 | rfl | h1
    · simp [h1] at h
    · simp [UInt8.lt_irrefl] at h
      exact congrArg _ (eq_of_memcmp_eq as bs (by simpa using hl) h)
    · simp [h1, UInt8.lt_asymm h1] at h
  | [], _ :: _, hl, _ | _ :: _, [], hl, _ => by simp at hl

theorem Uuid.ext {a b : Uuid} (h : a.data = b.data) : a = b := by
  cases a; cases b; cases h; rfl

theorem Uuid.lt_irrefl (a : Uuid) : ¬a < a := by
  show ¬memcmp a.data a.data = .lt
  simp [memcmp_self]

theorem Uuid.lt_trans {a b c : Uuid} : a < b → b < c → a < c :=
  memcmp_trans a.data b.data c.data

theorem Uuid.lt_trichotomy (a b : Uuid) : a < b ∨ a = b ∨ b < a := by
  show memcmp a.data b.data = .lt ∨ a = b ∨ memcmp b.data a.data = .lt
  rw [memcmp_lt_iff_gt b.data a.data]
  cases h : memcmp a.data b.data
  · exact .inl rfl
  · exact .inr (.inl (Uuid.ext (eq_of_memcmp_eq _ _ (by rw [a.length_data, b.length_data]) h)))
  · exact .inr (.inr rfl)

-- ════════════════════════════════════════════════════════════════════════
-- The key order
-- ════════════════════════════════════════════════════════════════════════

/-- The comparator compares keys lexicographically. -/
theorem fileGroupIdAndEndTimestampLt_iff (a b : File) :
    fileGroupIdAndEndTimestampLt a b = true ↔ KeyLt a b := by
  unfold fileGroupIdAndEndTimestampLt KeyLt
  by_cases h1 : a.groupId = b.groupId <;> by_cases h2 : a.endTs = b.endTs <;>
    by_cases h3 : a.origPath = b.origPath <;> simp [h1, h2, h3]

/-- One layer of a lexicographic order is transitive when the layers below it are. -/
theorem lex_layer_trans {α : Type} [LT α] (hr : ∀ {x y z : α}, x < y → y < z → x < z)
    {a b c : α} {P Q R : Prop} (hPQ : P → Q → R) :
    (a < b ∨ a = b ∧ P) → (b < c ∨ b = c ∧ Q) → (a < c ∨ a = c ∧ R) := by
  rintro (h1 | ⟨rfl, h1⟩) (h2 | ⟨rfl, h2⟩)
  · exact .inl (hr h1 h2)
  · exact .inl h1
  · exact .inl h2
  · exact .inr ⟨rfl, hPQ h1 h2⟩

/-- One layer of a lexicographic order is trichotomous when the layers below it are. -/
theorem lex_layer_trichotomous {α : Type} [LT α] (hr : ∀ x y : α, x < y ∨ x = y ∨ y < x)
    (a b : α) {P E Q : Prop} (h : a = b → P ∨ E ∨ Q) :
    (a < b ∨ a = b ∧ P) ∨ (a = b ∧ E) ∨ (b < a ∨ b = a ∧ Q) := by
  rcases hr a b with h1 | rfl | h1
  · exact .inl (.inl h1)
  · rcases h rfl with h2 | h2 | h2
    · exact .inl (.inr ⟨rfl, h2⟩)
    · exact .inr (.inl ⟨rfl, h2⟩)
    · exact .inr (.inr (.inr ⟨rfl, h2⟩))
  · exact .inr (.inr (.inl h1))

theorem uint64_trichotomous (a b : UInt64) : a < b ∨ a = b ∨ b < a := by
  rcases Nat.lt_trichotomy a.toNat b.toNat with h | h | h
  · exact .inl h
  · exact .inr (.inl (UInt64.toNat.inj h))
  · exact .inr (.inr h)

/-- The comparator's key is the whole of `File`. -/
theorem SameKey.eq {a b : File} (h : SameKey a b) : a = b := by
  obtain ⟨e1, e2, e3, e4⟩ := h
  cases a; cases b; simp_all

theorem KeyLt.irrefl (a : File) : ¬KeyLt a a := by
  simp [KeyLt, UInt64.lt_irrefl, Uuid.lt_irrefl]

theorem KeyLt.trans {a b c : File} : KeyLt a b → KeyLt b c → KeyLt a c :=
  lex_layer_trans UInt64.lt_trans <| lex_layer_trans lt_trans <| lex_layer_trans lt_trans
    Uuid.lt_trans

theorem KeyLt.trichotomous (a b : File) : KeyLt a b ∨ SameKey a b ∨ KeyLt b a :=
  lex_layer_trichotomous uint64_trichotomous _ _ fun _ =>
    lex_layer_trichotomous lt_trichotomy _ _ fun _ =>
      lex_layer_trichotomous lt_trichotomy _ _ fun _ => Uuid.lt_trichotomy _ _

theorem KeyLt.incomparable_iff (a b : File) : ¬KeyLt a b ∧ ¬KeyLt b a ↔ SameKey a b := by
  constructor
  · rintro ⟨h1, h2⟩
    exact (KeyLt.trichotomous a b).resolve_left h1 |>.resolve_right h2
  · intro h
    cases h.eq
    exact ⟨KeyLt.irrefl a, KeyLt.irrefl a⟩

/-- **The segment's file order.** The comparator holds exactly when the key
`(group_id, end_ts, orig_path, id)` of the left file is lexicographically below that of the
right one; it is a strict weak ordering, and two files are incomparable exactly when their keys
are equal. -/
theorem fileGroupIdAndEndTimestampLt_strictWeakOrder :
    (∀ a b, fileGroupIdAndEndTimestampLt a b = true ↔ KeyLt a b) ∧
    IsStrictWeakOrder File (fun a b => fileGroupIdAndEndTimestampLt a b = true) ∧
    ∀ a b, (¬fileGroupIdAndEndTimestampLt a b = true ∧ ¬fileGroupIdAndEndTimestampLt b a = true ↔
      SameKey a b) := by
  have hlt : (fun a b => fileGroupIdAndEndTimestampLt a b = true) = KeyLt :=
    funext fun a => funext fun b => propext (fileGroupIdAndEndTimestampLt_iff a b)
  have hswo : IsStrictWeakOrder File KeyLt :=
    { irrefl := KeyLt.irrefl
      trans := fun _ _ _ => KeyLt.trans
      incomp_trans := fun a b c hab hbc => by
        rw [KeyLt.incomparable_iff] at hab hbc ⊢
        cases hab.eq; exact hbc }
  refine ⟨fileGroupIdAndEndTimestampLt_iff, hlt ▸ hswo, fun a b => ?_⟩
  simp only [fileGroupIdAndEndTimestampLt_iff, KeyLt.incomparable_iff]

-- ════════════════════════════════════════════════════════════════════════
-- A segment's files in order
-- ════════════════════════════════════════════════════════════════════════

/-- A file before another in the key order has no greater group ID, and no greater end timestamp
when the group is the same. -/
theorem KeyLt.groupId_le {a b : File} (h : KeyLt a b) :
    a.groupId ≤ b.groupId ∧ (a.groupId = b.groupId → a.endTs ≤ b.endTs) := by
  rcases h with h | ⟨he, h | ⟨he', -⟩⟩
  · exact ⟨UInt64.not_lt.mp (UInt64.lt_asymm h), fun he => absurd he (UInt64.ne_of_lt h)⟩
  · exact ⟨he ▸ UInt64.le_refl _, fun _ => le_of_lt h⟩
  · exact ⟨he ▸ UInt64.le_refl _, fun _ => le_of_eq he'⟩

/-- **The groups of a segment are contiguous.** In files listed in the comparator's order, as a
set ordered by it iterates them, a file between two files of one group belongs to that group,
and the group's files follow one another by end timestamp. -/
theorem segment_groups_contiguous {files : List File}
    (h : files.Pairwise fun a b => fileGroupIdAndEndTimestampLt a b = true) {a b c : File}
    (habc : List.Sublist [a, b, c] files) (hac : a.groupId = c.groupId) :
    b.groupId = a.groupId ∧ a.endTs ≤ b.endTs ∧ b.endTs ≤ c.endTs := by
  have hp := h.sublist habc
  simp only [List.pairwise_cons, List.mem_cons, List.mem_singleton, forall_eq_or_imp,
    forall_eq, List.not_mem_nil, false_implies, implies_true, List.Pairwise.nil, and_true] at hp
  have h1 := ((fileGroupIdAndEndTimestampLt_iff a b).mp hp.1.1).groupId_le
  have h2 := ((fileGroupIdAndEndTimestampLt_iff b c).mp hp.2).groupId_le
  have hb : b.groupId = a.groupId := UInt64.toNat.inj (Nat.le_antisymm (hac ▸ h2.1) h1.1)
  exact ⟨hb, h1.2 hb.symm, h2.2 (hb.trans hac)⟩

/-- `boost::uuids::nil_uuid()`. -/
def Uuid.nil : Uuid := ⟨List.replicate 16 0, rfl⟩

/-- Three files of one group, listed by end timestamp. -/
theorem segment_groups_contiguous_nil :
    [(⟨.nil, "a", 1, 5⟩ : File), ⟨.nil, "b", 1, 7⟩, ⟨.nil, "c", 1, 9⟩].Pairwise
        (fun a b => fileGroupIdAndEndTimestampLt a b = true) ∧
      (⟨.nil, "b", 1, 7⟩ : File).groupId = (⟨.nil, "a", 1, 5⟩ : File).groupId ∧
      (⟨.nil, "a", 1, 5⟩ : File).endTs ≤ (⟨.nil, "b", 1, 7⟩ : File).endTs ∧
      (⟨.nil, "b", 1, 7⟩ : File).endTs ≤ (⟨.nil, "c", 1, 9⟩ : File).endTs :=
  have h : [(⟨.nil, "a", 1, 5⟩ : File), ⟨.nil, "b", 1, 7⟩, ⟨.nil, "c", 1, 9⟩].Pairwise
      (fun a b => fileGroupIdAndEndTimestampLt a b = true) := by decide
  ⟨h, segment_groups_contiguous h (List.Sublist.refl _) rfl⟩

end ClpCore.StreamingArchive
