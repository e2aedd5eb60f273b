import LaunchGeometry.Allocation
import LaunchGeometry.Proofs.PowerOfTwo

/-! Power of two buckets.

The bucket of a positive number of bytes is the least power of two that holds them, up to half the number
of words. The power above that wraps to zero, which is the bucket of no bytes as well: of the two uses of
zero, only the one for no bytes is granted.
-/

set_option autoImplicit false

namespace LaunchGeometry.Allocation

open Word

variable {bytes fewer size : Word} {refusal : Refusal}

inductive BucketExit (bytes : Word) : Except Refusal Word → Prop where
  | empty : bytes = 0 → BucketExit bytes (.ok 0)
  | held {size : Word} : bytes ≠ 0 → LeastPower bytes.toNat size.toNat → BucketExit bytes (.ok size)
  | overflow : 2 ^ 63 < bytes.toNat → BucketExit bytes (.error (.allocationOverflow bytes))

theorem exists_leastPower (positive : bytes ≠ 0) : ∃ power, LeastPower bytes.toNat power ∧ power ≤ Word.count := by
  have least := leastPower_two_pow_size (bytes.toNat - 1)
  rw [Nat.sub_add_cancel (toNat_pos positive)] at least
  exact ⟨_, least, (least.le_two_pow_iff 64).mpr (Nat.le_of_lt bytes.toNat_lt)⟩

theorem leastPower_lt_count_iff {power : Nat} (least : LeastPower bytes.toNat power) :
    power < Word.count ↔ bytes.toNat ≤ 2 ^ 63 := by
  rw [lt_count_iff_of_isPowerOfTwo least.1.1, least.le_two_pow_iff]

theorem bucket_exit (bytes : Word) : BucketExit bytes (bucket bytes) := by
  by_cases none : bytes = 0
  · subst none
    exact .empty rfl
  · obtain ⟨power, least, bounded⟩ := exists_leastPower none
    have wrapped := toNat_powerAtLeast none least
    unfold bucket
    dsimp only
    rcases Nat.lt_or_ge power Word.count with fits | large
    · rw [Nat.mod_eq_of_lt fits] at wrapped
      have nonzero : bytes.powerAtLeast ≠ 0 := by
        intro zero
        rw [zero] at wrapped
        exact least.pos.ne wrapped
      rw [if_neg fun overflow => nonzero overflow.1]
      exact .held none (wrapped ▸ least)
    · rw [Nat.le_antisymm bounded large, Nat.mod_self] at wrapped
      rw [if_pos ⟨UInt64.toNat_inj.mp wrapped, none⟩]
      refine .overflow (Nat.lt_of_not_le fun small => ?_)
      exact Nat.not_lt.mpr large ((leastPower_lt_count_iff least).mpr small)

theorem bucket_eq_error_iff :
    bucket bytes = .error refusal ↔ refusal = .allocationOverflow bytes ∧ 2 ^ 63 < bytes.toNat := by
  have exit := bucket_exit bytes
  generalize bucket bytes = answer at exit ⊢
  cases exit with
  | empty zero => simp [zero]
  | held _ least =>
    have small := (leastPower_lt_count_iff least).mp (Word.toNat_lt _)
    exact iff_of_false (by simp) fun excess => Nat.not_lt.mpr small excess.2
  | overflow large =>
    rw [Except.error.injEq, eq_comm]
    exact (and_iff_left large).symm

theorem bucket_eq_ok_iff (positive : bytes ≠ 0) :
    bucket bytes = .ok size ↔ LeastPower bytes.toNat size.toNat := by
  have exit := bucket_exit bytes
  generalize bucket bytes = answer at exit ⊢
  cases exit with
  | empty zero => exact absurd zero positive
  | held _ least =>
    rw [Except.ok.injEq]
    constructor
    · intro same
      exact same ▸ least
    · intro other
      exact UInt64.toNat_inj.mp (least.unique other)
  | overflow large =>
    refine iff_of_false (by simp) fun least => Nat.not_lt.mpr ?_ large
    exact (leastPower_lt_count_iff least).mp (Word.toNat_lt size)

theorem exists_bucket_iff : (∃ size, bucket bytes = .ok size) ↔ bytes.toNat ≤ 2 ^ 63 := by
  have exit := bucket_exit bytes
  generalize bucket bytes = answer at exit ⊢
  cases exit with
  | empty zero => simp [zero]
  | held _ least =>
    exact iff_of_true ⟨_, rfl⟩ ((leastPower_lt_count_iff least).mp (Word.toNat_lt _))
  | overflow large => exact iff_of_false (by simp) (Nat.not_le.mpr large)

@[simp] theorem bucket_zero : bucket 0 = .ok 0 := rfl

theorem bucket_eq_ok_zero_iff : bucket bytes = .ok 0 ↔ bytes = 0 := by
  constructor
  · intro answered
    by_contra positive
    have least := (bucket_eq_ok_iff positive).mp answered
    exact Nat.lt_irrefl 0 least.pos
  · rintro rfl
    exact bucket_zero

theorem bucket_idempotent (answered : bucket bytes = .ok size) : bucket size = .ok size := by
  by_cases none : bytes = 0
  · subst none
    obtain rfl := Except.ok.inj answered
    exact bucket_zero
  · have least := (bucket_eq_ok_iff none).mp answered
    have positive : size ≠ 0 := by
      rintro rfl
      exact Nat.lt_irrefl 0 least.pos
    exact (bucket_eq_ok_iff positive).mpr least.self

theorem bucket_mono (below : fewer ≤ bytes) (answered : bucket bytes = .ok size) :
    ∃ smaller ≤ size, bucket fewer = .ok smaller := by
  by_cases none : fewer = 0
  · subst none
    exact ⟨0, UInt64.zero_le, bucket_zero⟩
  · have positive : bytes ≠ 0 := by
      rintro rfl
      exact none (UInt64.le_zero_iff.mp below)
    have below := UInt64.le_iff_toNat_le.mp below
    obtain ⟨smaller, granted⟩ := exists_bucket_iff.mpr (Nat.le_trans below (exists_bucket_iff.mp ⟨size, answered⟩))
    have covers := (bucket_eq_ok_iff none).mp granted
    exact ⟨smaller, UInt64.le_iff_toNat_le.mpr (covers.mono ((bucket_eq_ok_iff positive).mp answered) below), granted⟩

/-- Bytes are refused exactly above half the number of words. No other bytes than none have the empty bucket.
The bucket of the bytes between is the least power of two that holds them, which is less than twice as many.
A bucket is its own bucket, and fewer bytes have a bucket that is no larger. -/
theorem bucket_least_power (bytes : Word) :
    (∀ refusal, bucket bytes = .error refusal ↔
      refusal = .allocationOverflow bytes ∧ 2 ^ 63 < bytes.toNat) ∧
    (bucket bytes = .ok 0 ↔ bytes = 0) ∧
    (bytes ≠ 0 → bytes.toNat ≤ 2 ^ 63 →
      ∃ size, bucket bytes = .ok size ∧ LeastPower bytes.toNat size.toNat ∧
        bytes ≤ size ∧ size.toNat < 2 * bytes.toNat) ∧
    (∀ size, bucket bytes = .ok size → bucket size = .ok size) ∧
    ∀ fewer size, fewer ≤ bytes → bucket bytes = .ok size → ∃ smaller ≤ size, bucket fewer = .ok smaller := by
  refine ⟨fun refusal => bucket_eq_error_iff, bucket_eq_ok_zero_iff, fun positive small => ?_,
    fun size => bucket_idempotent, fun fewer size => bucket_mono⟩
  obtain ⟨size, answered⟩ := exists_bucket_iff.mpr small
  have least := (bucket_eq_ok_iff positive).mp answered
  exact ⟨size, answered, least, UInt64.le_iff_toNat_le.mpr least.le, least.lt_two_mul (toNat_pos positive)⟩

theorem bucket_least_power_half :
    let half : Word := 9223372036854775808
    let most : Word := 9223372036854775807
    most ≠ 0 ∧ most.toNat ≤ 2 ^ 63 ∧
      (∃ size, bucket most = .ok size ∧ LeastPower most.toNat size.toNat ∧ size.toNat < 2 * most.toNat) ∧
      bucket half = .ok half ∧ (4611686018427387905 : Word) ≤ half ∧
      (∃ smaller ≤ half, bucket 4611686018427387905 = .ok smaller) ∧
      bucket (half + 1) = .error (.allocationOverflow (half + 1)) := by
  intro half most
  have small : most.toNat ≤ 2 ^ 63 := by decide
  have granted : bucket most = .ok half := by decide
  obtain ⟨_, _, least, same, _⟩ := bucket_least_power most
  obtain ⟨size, answered, covers, _, less⟩ := least (by decide) small
  obtain ⟨_, _, _, _, fewer⟩ := bucket_least_power half
  exact ⟨by decide, small, ⟨size, answered, covers, less⟩, same half granted, by decide,
    fewer _ half (by decide) (same half granted), ((bucket_least_power (half + 1)).1 _).mpr ⟨rfl, by decide⟩⟩

end LaunchGeometry.Allocation
