import LaunchGeometry.Allocation
import LaunchGeometry.Proofs.Ceiling

/-! Sizes rounded up to an alignment.

An aligned size is the least multiple of the alignment that holds the bytes. It is refused where the sum in
front of its division is no word, which may be although the multiple is one. The number of words
is a multiple of every power of two, so that under such an alignment the multiple itself decides.
-/

set_option autoImplicit false

namespace LaunchGeometry.Allocation

open Word

variable {bytes fewer alignment size : Word}

/-- The exits of an alignment, each with what has been found on the way to it in exact numbers. -/
inductive AlignedExit (bytes alignment : Word) : Traced Refusal Word → Prop where
  | zeroAlignment : alignment = 0 → AlignedExit bytes alignment (.fail .zeroAlignment)
  | overflow : 0 < alignment.toNat → Word.count < bytes.toNat + alignment.toNat →
      AlignedExit bytes alignment (.fail (.allocationOverflow bytes))
  | kept : 0 < alignment.toNat → bytes.toNat + alignment.toNat ≤ Word.count →
      LeastMultiple alignment.toNat bytes.toNat bytes.toNat → AlignedExit bytes alignment (.ok bytes)
  | grown {size : Word} : 0 < alignment.toNat → bytes.toNat + alignment.toNat ≤ Word.count →
      LeastMultiple alignment.toNat bytes.toNat size.toNat → size ≠ bytes →
      AlignedExit bytes alignment (.okWith (.aligned bytes alignment size) size)

theorem aligned_exit (bytes alignment : Word) : AlignedExit bytes alignment (aligned bytes alignment) := by
  unfold aligned
  split
  next zero => exact .zeroAlignment zero
  next nonzero =>
    split
    next refused =>
      rcases roundUp?_eq_none_iff.mp refused with zero | large
      · exact absurd zero nonzero
      · exact .overflow (toNat_pos nonzero) large
    next size rounded =>
      obtain ⟨positive, room, least⟩ := roundUp?_eq_some_iff_leastMultiple.mp rounded
      split
      next same =>
        subst same
        exact .kept positive room least
      next changed => exact .grown positive room least changed

theorem aligned_outcome_eq_zeroAlignment_iff :
    (aligned bytes alignment).outcome = .error .zeroAlignment ↔ alignment = 0 := by
  constructor
  · intro refused
    have exit := aligned_exit bytes alignment
    generalize aligned bytes alignment = call at exit refused
    cases exit with
    | zeroAlignment zero => exact zero
    | overflow | kept | grown => cases refused
  · intro zero
    subst zero
    rfl

theorem aligned_outcome_eq_ok_iff :
    (aligned bytes alignment).outcome = .ok size ↔
      0 < alignment.toNat ∧ bytes.toNat + alignment.toNat ≤ Word.count ∧
        LeastMultiple alignment.toNat bytes.toNat size.toNat := by
  have exit := aligned_exit bytes alignment
  generalize aligned bytes alignment = call at exit ⊢
  cases exit with
  | zeroAlignment zero => simp [zero]
  | overflow positive large => exact iff_of_false (by simp) fun room => Nat.not_lt.mpr room.2.1 large
  | kept positive room least | grown positive room least =>
    constructor
    · intro answered
      cases answered
      exact ⟨positive, room, least⟩
    · intro other
      rw [UInt64.toNat_inj.mp (other.2.2.unique least)]
      rfl

theorem aligned_outcome_eq_overflow_iff :
    (aligned bytes alignment).outcome = .error (.allocationOverflow bytes) ↔
      0 < alignment.toNat ∧ Word.count < bytes.toNat + alignment.toNat := by
  have exit := aligned_exit bytes alignment
  generalize aligned bytes alignment = call at exit ⊢
  cases exit with
  | zeroAlignment zero => simp [zero]
  | overflow positive large => exact iff_of_true rfl ⟨positive, large⟩
  | kept positive room | grown positive room =>
    exact iff_of_false (by simp) fun excess => Nat.not_lt.mpr room excess.2

theorem exists_aligned_iff :
    (∃ size, (aligned bytes alignment).outcome = .ok size) ↔
      0 < alignment.toNat ∧ bytes.toNat + alignment.toNat ≤ Word.count := by
  constructor
  · intro answered
    obtain ⟨size, answered⟩ := answered
    obtain ⟨positive, room, _⟩ := aligned_outcome_eq_ok_iff.mp answered
    exact ⟨positive, room⟩
  · intro sound
    obtain ⟨positive, room⟩ := sound
    have exit := aligned_exit bytes alignment
    generalize aligned bytes alignment = call at exit ⊢
    cases exit with
    | zeroAlignment zero => simp [zero] at positive
    | overflow _ large => exact absurd large (Nat.not_lt.mpr room)
    | kept | grown => exact ⟨_, rfl⟩

theorem aligned_mono (below : fewer ≤ bytes) (answered : (aligned bytes alignment).outcome = .ok size) :
    ∃ smaller ≤ size, (aligned fewer alignment).outcome = .ok smaller := by
  have below := UInt64.le_iff_toNat_le.mp below
  obtain ⟨positive, room, least⟩ := aligned_outcome_eq_ok_iff.mp answered
  obtain ⟨smaller, granted⟩ := exists_aligned_iff.mpr
    ⟨positive, Nat.le_trans (Nat.add_le_add_right below alignment.toNat) room⟩
  have covers := (aligned_outcome_eq_ok_iff.mp granted).2.2
  refine ⟨smaller, UInt64.le_iff_toNat_le.mpr ?_, granted⟩
  exact (leastMultiple_iff_leastCover.mp covers).mono (leastMultiple_iff_leastCover.mp least) below

section

variable (twos : alignment.toNat.isPowerOfTwo)

include twos

theorem alignment_pos_of_isPowerOfTwo : 0 < alignment.toNat := by
  obtain ⟨exponent, power⟩ := twos
  rw [power]
  exact Nat.two_pow_pos exponent

theorem alignment_dvd_count : alignment.toNat ∣ Word.count := by
  obtain ⟨exponent, power⟩ := twos
  have below : 2 ^ exponent < 2 ^ 64 := power ▸ alignment.toNat_lt
  rw [power]
  exact Nat.pow_dvd_pow 2 (Nat.le_of_lt ((Nat.pow_lt_pow_iff_right (by decide)).mp below))

theorem room_iff_of_isPowerOfTwo {multiple : Nat} (least : LeastMultiple alignment.toNat bytes.toNat multiple) :
    bytes.toNat + alignment.toNat ≤ Word.count ↔ multiple < Word.count :=
  least.add_le_iff_lt (alignment_pos_of_isPowerOfTwo twos) (alignment_dvd_count twos)

theorem aligned_outcome_eq_ok_iff_of_isPowerOfTwo :
    (aligned bytes alignment).outcome = .ok size ↔ LeastMultiple alignment.toNat bytes.toNat size.toNat := by
  rw [aligned_outcome_eq_ok_iff]
  constructor
  · intro answered
    exact answered.2.2
  · intro least
    exact ⟨alignment_pos_of_isPowerOfTwo twos, (room_iff_of_isPowerOfTwo twos least).mpr size.toNat_lt, least⟩

theorem aligned_outcome_eq_overflow_iff_of_isPowerOfTwo :
    (aligned bytes alignment).outcome = .error (.allocationOverflow bytes) ↔
      ∃ multiple, LeastMultiple alignment.toNat bytes.toNat multiple ∧ Word.count ≤ multiple := by
  have positive := alignment_pos_of_isPowerOfTwo twos
  rw [aligned_outcome_eq_overflow_iff]
  constructor
  · intro refused
    have least := leastMultiple_mul_ceilDiv bytes.toNat positive
    refine ⟨_, least, Nat.le_of_not_lt fun fits => ?_⟩
    exact Nat.not_lt.mpr ((room_iff_of_isPowerOfTwo twos least).mpr fits) refused.2
  · intro excess
    obtain ⟨multiple, least, large⟩ := excess
    refine ⟨positive, Nat.lt_of_not_le fun room => ?_⟩
    exact Nat.not_lt.mpr large ((room_iff_of_isPowerOfTwo twos least).mp room)

theorem aligned_idempotent (answered : (aligned bytes alignment).outcome = .ok size) :
    (aligned size alignment).outcome = .ok size := by
  rw [aligned_outcome_eq_ok_iff_of_isPowerOfTwo twos, leastMultiple_iff_leastCover] at answered ⊢
  exact answered.self

end

/-- An aligned size is the least multiple of the alignment that holds the bytes, and only a zero alignment is
refused as one. There is room for it where the bytes and one alignment are no more than the number of words.
Under a power of two that is wherever the multiple is a word, and an aligned size is its own aligned size.
Fewer bytes are never refused for what more are granted, and take no more. -/
theorem aligned_least_multiple (bytes alignment : Word) :
    ((aligned bytes alignment).outcome = .error .zeroAlignment ↔ alignment = 0) ∧
    (∀ size, (aligned bytes alignment).outcome = .ok size ↔
      0 < alignment.toNat ∧ bytes.toNat + alignment.toNat ≤ Word.count ∧
        LeastMultiple alignment.toNat bytes.toNat size.toNat) ∧
    (alignment.toNat.isPowerOfTwo →
      (∀ size, (aligned bytes alignment).outcome = .ok size ↔
        LeastMultiple alignment.toNat bytes.toNat size.toNat) ∧
      ((aligned bytes alignment).outcome = .error (.allocationOverflow bytes) ↔
        ∃ multiple, LeastMultiple alignment.toNat bytes.toNat multiple ∧ Word.count ≤ multiple) ∧
      ∀ size, (aligned bytes alignment).outcome = .ok size → (aligned size alignment).outcome = .ok size) ∧
    ∀ fewer size, fewer ≤ bytes → (aligned bytes alignment).outcome = .ok size →
      ∃ smaller ≤ size, (aligned fewer alignment).outcome = .ok smaller := by
  refine ⟨aligned_outcome_eq_zeroAlignment_iff, fun size => aligned_outcome_eq_ok_iff, fun twos => ?_,
    fun fewer size => aligned_mono⟩
  exact ⟨fun size => aligned_outcome_eq_ok_iff_of_isPowerOfTwo twos,
    aligned_outcome_eq_overflow_iff_of_isPowerOfTwo twos, fun size => aligned_idempotent twos⟩

theorem aligned_least_multiple_at_top :
    let last : Word := 18446744073709551600
    let more : Word := 18446744073709551601
    (16 : Word).toNat.isPowerOfTwo ∧ (aligned (last - 15) 16).outcome = .ok last ∧
      (aligned last 16).outcome = .ok last ∧ (5 : Word) ≤ last - 15 ∧
      (∃ smaller ≤ last, (aligned 5 16).outcome = .ok smaller) ∧
      (aligned more 16).outcome = .error (.allocationOverflow more) ∧
      ∃ multiple, LeastMultiple 16 more.toNat multiple ∧ Word.count ≤ multiple := by
  intro last more
  have twos : (16 : Word).toNat.isPowerOfTwo := ⟨4, rfl⟩
  have granted : (aligned (last - 15) 16).outcome = .ok last := by decide
  have refused : (aligned more 16).outcome = .error (.allocationOverflow more) := by decide
  obtain ⟨_, _, powers, fewer⟩ := aligned_least_multiple (last - 15) 16
  obtain ⟨_, _, excess, _⟩ := aligned_least_multiple more 16
  exact ⟨twos, granted, (powers twos).2.2 last granted, by decide, fewer 5 last (by decide) granted, refused,
    (excess twos).2.1.mp refused⟩

end LaunchGeometry.Allocation
