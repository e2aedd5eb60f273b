import LaunchGeometry.PowerOfTwo
import LaunchGeometry.Proofs.Ceiling
import Mathlib.Data.Nat.Size

/-! Smeared words and the powers of two above them.

One step of smearing by as many places as are filled already doubles the reach of every set bit. The
steps of a smear start from a reach of one and end with one of a whole word, where each place has a
set bit at or above it exactly if it lies below the length of the word. So a smeared word is one
less than a power of two, and that power is the least one above the word.
-/

set_option autoImplicit false

namespace LaunchGeometry.Word

variable {source result a shift : Word} {number power : Nat}

theorem testBit_spread (a : Word) (small : shift.toNat < 64) (place : Nat) :
    (spread a shift).toNat.testBit place =
      (a.toNat.testBit place || a.toNat.testBit (shift.toNat + place)) := by
  rw [spread, UInt64.toNat_or, UInt64.toNat_shiftRight, Nat.mod_eq_of_lt small, Nat.testBit_or,
    Nat.testBit_shiftRight]

/-- A place is set exactly if the source has a bit less than `reach` places above it. -/
def Smears (source : Word) (reach : Nat) (result : Word) : Prop :=
  ∀ place, result.toNat.testBit place = true ↔ ∃ above < reach, source.toNat.testBit (above + place) = true

namespace Smears

theorem start (source : Word) : Smears source 1 source := by
  intro place
  simp

-- A bit in the upper half of the new reach is in reach of the place that the step copies from.
theorem spread (smears : Smears source shift.toNat result) (small : shift.toNat < 64) :
    Smears source (2 * shift.toNat) (result.spread shift) := by
  intro place
  rw [testBit_spread result small, Bool.or_eq_true, smears, smears]
  constructor
  · rintro (⟨above, near, set⟩ | ⟨above, near, set⟩)
    · exact ⟨above, by omega, set⟩
    · exact ⟨above + shift.toNat, by omega, by rwa [Nat.add_assoc]⟩
  · intro reached
    obtain ⟨above, near, set⟩ := reached
    rcases Nat.lt_or_ge above shift.toNat with lower | upper
    · exact .inl ⟨above, lower, set⟩
    · refine .inr ⟨above - shift.toNat, by omega, ?_⟩
      rwa [← Nat.add_assoc, Nat.sub_add_cancel upper]

theorem foldl (source : Word) {steps : Nat} (within : steps ≤ 6) :
    Smears source (2 ^ steps)
      (((List.range steps).map fun step => UInt64.ofNat (2 ^ step)).foldl Word.spread source) := by
  induction steps with
  | zero => exact start source
  | succ steps ih =>
    have small : 2 ^ steps < 64 := Nat.pow_lt_pow_right (by decide) (show steps < 6 from within)
    have exact : (UInt64.ofNat (2 ^ steps)).toNat = 2 ^ steps :=
      UInt64.toNat_ofNat_of_lt (Nat.lt_trans small (by decide))
    have reached := ih (Nat.le_of_succ_le within)
    rw [← exact] at reached
    rw [List.range_succ, List.map_append, List.foldl_append, Nat.pow_succ', ← exact]
    exact reached.spread (exact.symm ▸ small)

end Smears

theorem smears_smear (a : Word) : Smears a 64 (smear a) := by
  have doublings : [1, 2, 4, 8, 16, 32] = (List.range 6).map fun step => UInt64.ofNat (2 ^ step) := by decide
  rw [smear, doublings]
  exact Smears.foldl a (Nat.le_refl 6)

theorem testBit_smear (a : Word) (place : Nat) :
    (smear a).toNat.testBit place = decide (place < a.toNat.size) := by
  rw [Bool.eq_iff_iff, smears_smear, decide_eq_true_iff, Nat.lt_size]
  constructor
  · intro reached
    obtain ⟨above, _, set⟩ := reached
    exact Nat.le_trans (Nat.pow_le_pow_right (by decide) (Nat.le_add_left ..)) (Nat.ge_two_pow_of_testBit set)
  · intro large
    obtain ⟨top, higher, set⟩ := Nat.exists_ge_and_testBit_of_ge_two_pow large
    have bound : 2 ^ top < 2 ^ 64 := Nat.lt_of_le_of_lt (Nat.ge_two_pow_of_testBit set) a.toNat_lt
    have inside := (Nat.pow_lt_pow_iff_right (by decide)).mp bound
    exact ⟨top - place, by omega, by rwa [Nat.sub_add_cancel higher]⟩

theorem toNat_smear (a : Word) : (smear a).toNat = 2 ^ a.toNat.size - 1 := by
  apply Nat.eq_of_testBit_eq
  intro place
  rw [testBit_smear, Nat.testBit_two_pow_sub_one]

theorem toNat_powerAbove (a : Word) : (powerAbove a).toNat = 2 ^ a.toNat.size % count := by
  have positive := Nat.two_pow_pos a.toNat.size
  rw [powerAbove, UInt64.toNat_add, toNat_smear, UInt64.toNat_one, Nat.sub_add_cancel positive]

abbrev LeastPower : Nat → Nat → Prop := LeastCover Nat.isPowerOfTwo

theorem leastPower_two_pow_size (number : Nat) : LeastPower (number + 1) (2 ^ number.size) := by
  constructor
  · exact ⟨⟨number.size, rfl⟩, Nat.lt_size_self number⟩
  · intro covering member
    obtain ⟨⟨exponent, rfl⟩, covers⟩ := member
    exact Nat.pow_le_pow_right (by decide) (Nat.size_le.mpr covers)

namespace LeastPower

theorem pos (least : LeastPower number power) : 0 < power := by
  obtain ⟨exponent, rfl⟩ := least.1.1
  exact Nat.two_pow_pos exponent

-- Half of the power is a power as well, unless the power is one.
theorem lt_two_mul (least : LeastPower number power) (positive : 0 < number) : power < 2 * number := by
  obtain ⟨exponent, rfl⟩ := least.1.1
  cases exponent with
  | zero => omega
  | succ exponent =>
    rw [Nat.pow_succ']
    refine Nat.mul_lt_mul_of_pos_left (Nat.lt_of_not_le fun covers => ?_) (by decide)
    have half := least.2 ⟨⟨exponent, rfl⟩, covers⟩
    rw [Nat.pow_succ'] at half
    have positive := Nat.two_pow_pos exponent
    omega

theorem le_two_pow_iff (least : LeastPower number power) (exponent : Nat) :
    power ≤ 2 ^ exponent ↔ number ≤ 2 ^ exponent :=
  ⟨Nat.le_trans least.le, fun covers => least.2 ⟨⟨exponent, rfl⟩, covers⟩⟩

end LeastPower

theorem lt_count_iff_of_isPowerOfTwo (twos : power.isPowerOfTwo) : power < count ↔ power ≤ 2 ^ 63 := by
  obtain ⟨exponent, rfl⟩ := twos
  have words : count = 2 ^ 64 := rfl
  rw [words, Nat.pow_lt_pow_iff_right (by decide), Nat.pow_le_pow_iff_right (by decide)]
  omega

theorem toNat_powerAtLeast (positive : a ≠ 0) (least : LeastPower a.toNat power) :
    (powerAtLeast a).toNat = power % count := by
  have above := leastPower_two_pow_size (a - 1).toNat
  rw [toNat_pred positive, Nat.sub_add_cancel (toNat_pos positive)] at above
  rw [powerAtLeast_of_ne_zero positive, toNat_powerAbove, toNat_pred positive, least.unique above]

theorem powerAbove_eq_zero_iff : powerAbove a = 0 ↔ 2 ^ 63 ≤ a.toNat := by
  have words : count = 2 ^ 64 := rfl
  calc powerAbove a = 0
    _ ↔ 2 ^ a.toNat.size % count = 0 := by rw [← UInt64.toNat_inj, toNat_powerAbove, UInt64.toNat_zero]
    _ ↔ 2 ^ 64 ∣ 2 ^ a.toNat.size := by rw [words, Nat.dvd_iff_mod_eq_zero]
    _ ↔ 63 < a.toNat.size := Nat.pow_dvd_pow_iff_le_right'
    _ ↔ 2 ^ 63 ≤ a.toNat := Nat.lt_size

theorem toNat_powerAbove_of_lt (small : a.toNat < 2 ^ 63) : (powerAbove a).toNat = 2 ^ a.toNat.size := by
  have fits : 2 ^ a.toNat.size < count := by
    rw [lt_count_iff_of_isPowerOfTwo ⟨a.toNat.size, rfl⟩, Nat.pow_le_pow_iff_right (by decide), Nat.size_le]
    exact small
  rw [toNat_powerAbove, Nat.mod_eq_of_lt fits]

/-- A smeared word has as many ones as the word has binary digits, and nothing else. The power above a word is the
least power of two that is greater, as long as that power is a word. From half the number of words on it is zero. -/
theorem powerAbove_least (a : Word) :
    (smear a).toNat = 2 ^ a.toNat.size - 1 ∧
    (powerAbove a = 0 ↔ 2 ^ 63 ≤ a.toNat) ∧
    (a.toNat < 2 ^ 63 → IsLeast {power | power.isPowerOfTwo ∧ a.toNat < power} (powerAbove a).toNat) := by
  refine ⟨toNat_smear a, powerAbove_eq_zero_iff, fun small => ?_⟩
  rw [toNat_powerAbove_of_lt small]
  exact leastPower_two_pow_size a.toNat

theorem powerAbove_least_sparse :
    let sparse : Word := 2199023255553
    let last : Word := 9223372036854775807
    sparse.toNat < 2 ^ 63 ∧ (smear sparse).toNat = 4398046511103 ∧ powerAbove sparse = 4398046511104 ∧
      IsLeast {power | power.isPowerOfTwo ∧ sparse.toNat < power} (powerAbove sparse).toNat ∧
      last.toNat < 2 ^ 63 ∧ powerAbove last = last + 1 ∧
      IsLeast {power | power.isPowerOfTwo ∧ last.toNat < power} (powerAbove last).toNat ∧
      powerAbove (last + 1) = 0 := by
  intro sparse last
  have small : sparse.toNat < 2 ^ 63 := by decide
  have below : last.toNat < 2 ^ 63 := by decide
  obtain ⟨filled, _, least⟩ := powerAbove_least sparse
  obtain ⟨_, _, half⟩ := powerAbove_least last
  obtain ⟨_, wraps, _⟩ := powerAbove_least (last + 1)
  exact ⟨small, filled.trans (by decide), by decide, least small, below, by decide, half below,
    wraps.mpr (by decide)⟩

end LaunchGeometry.Word
