import LaunchGeometry.Proofs.Launch.Padding

/-! The range that padding arrives at.

A padded launch has the least multiples of its local range that cover the range as it was
given, so that less than one group is added along each dimension and an empty dimension
stays empty. Its group counts are the exact quotients rounded up. Padding that is refused
for the volume has computed the same multiples, and it is their product that is no word.
-/

set_option autoImplicit false

namespace LaunchGeometry.Launch

open Coords

variable {D : Nat} {globalRange localRange rounded : Extent D} {launch : Launch D}

def LeastMultiples (globalRange localRange multiples : Extent D) : Prop :=
  ∀ dim, Word.LeastMultiple (localRange dim).toNat (globalRange dim).toNat (multiples dim).toNat

theorem roundUp_eq_ok_iff_leastMultiples :
    roundUp globalRange localRange = .ok rounded ↔
      localRange.Nonzero ∧ HasRoom globalRange localRange ∧ LeastMultiples globalRange localRange rounded := by
  simp only [roundUp_eq_ok_iff, Word.roundUp?_eq_some_iff_leastMultiple, forall_and]
  refine and_congr_left fun _ => forall_congr' fun dim => ?_
  exact UInt64.lt_iff_toNat_lt.symm.trans UInt64.pos_iff_ne_zero

theorem padded_outcome_eq_ok_iff_leastMultiples :
    (padded globalRange localRange).outcome = .ok launch ↔
      HasRoom globalRange localRange ∧ LeastMultiples globalRange localRange launch.globalRange ∧
        launch.localRange = localRange ∧ launch.offset = fill D 0 := by
  rw [padded_outcome_eq_ok_iff, roundUp_eq_ok_iff_leastMultiples, and_assoc, and_assoc]
  constructor
  · exact And.right
  · intro built
    -- The launch itself rules a zero out of its local range.
    have nonzero := launch.nonzero_localRange
    rw [built.2.2.1] at nonzero
    exact ⟨nonzero, built⟩

theorem padded_outcome_eq_volumeOverflow_iff :
    (padded globalRange localRange).outcome = .error .volumeOverflow ↔
      localRange.Nonzero ∧ HasRoom globalRange localRange ∧
        ∃ multiples, LeastMultiples globalRange localRange multiples ∧ Word.count ≤ multiples.volume := by
  constructor
  · intro refused
    have exit := padded_exit globalRange localRange
    generalize padded globalRange localRange = call at exit refused
    cases exit with
    | zeroLocalSize | rangeOverflow | kept | changed => cases refused
    | @volumeOverflow rounded _ multiple large =>
      obtain ⟨nonzero, room, least⟩ := roundUp_eq_ok_iff_leastMultiples.mp multiple
      exact ⟨nonzero, room, rounded, least, large⟩
  · intro excess
    obtain ⟨nonzero, room, multiples, least, large⟩ := excess
    have multiple := roundUp_eq_ok_iff_leastMultiples.mpr ⟨nonzero, room, least⟩
    rw [padded_outcome_of_roundUp nonzero multiple, ofTiles_of_le large]
    rfl

-- The whole groups of the padded range are as many as it takes to cover the given one.
theorem toNat_groupCounts_of_leastMultiples
    (least : LeastMultiples globalRange launch.localRange launch.globalRange) (dim : Fin D) :
    (launch.groupCounts dim).toNat = (globalRange dim).toNat ⌈/⌉ (launch.localRange dim).toNat := by
  have positive := launch.localRange_pos dim
  have covered := (Word.leastMultiple_iff positive).mp (least dim)
  rw [groupCounts_apply, UInt64.toNat_div, ← covered, Nat.mul_div_cancel_left _ positive]

/-- Padding builds the launch of the least multiples that cover the given range, as far as there is room
for one more group. Less than a group is added along each dimension, nothing to an empty one, and the groups
are counted by the exact quotient rounded up. Past that, only multiples whose product is no word are refused
for their volume. -/
theorem padded_builds_least_multiples :
    ((padded globalRange localRange).outcome = .ok launch ↔
      HasRoom globalRange localRange ∧ LeastMultiples globalRange localRange launch.globalRange ∧
        launch.localRange = localRange ∧ launch.offset = fill D 0) ∧
    ((padded globalRange localRange).outcome = .ok launch → ∀ dim,
      globalRange dim ≤ launch.globalRange dim ∧
      (launch.globalRange dim).toNat < (globalRange dim).toNat + (localRange dim).toNat ∧
      (launch.globalRange dim = 0 ↔ globalRange dim = 0) ∧
      (launch.groupCounts dim).toNat = (globalRange dim).toNat ⌈/⌉ (localRange dim).toNat) ∧
    ((padded globalRange localRange).outcome = .error .volumeOverflow ↔
      localRange.Nonzero ∧ HasRoom globalRange localRange ∧
        ∃ multiples, LeastMultiples globalRange localRange multiples ∧ Word.count ≤ multiples.volume) := by
  refine ⟨padded_outcome_eq_ok_iff_leastMultiples, fun built dim => ?_, padded_outcome_eq_volumeOverflow_iff⟩
  obtain ⟨_, least, rfl, _⟩ := padded_outcome_eq_ok_iff_leastMultiples.mp built
  refine ⟨UInt64.le_iff_toNat_le.mpr (least dim).le, (least dim).lt_add (launch.localRange_pos dim), ?_, ?_⟩
  · rw [← UInt64.toNat_inj, ← UInt64.toNat_inj]
    exact (least dim).eq_zero_iff
  · exact toNat_groupCounts_of_leastMultiples least dim

theorem padded_builds_least_multiples_at_top :
    let launch : Launch 2 :=
      ⟨⟨[18446744073709551615, 1], rfl⟩, ⟨[3, 1], rfl⟩, ⟨[0, 0], rfl⟩, by decide, by decide⟩
    let given : Extent 2 := ⟨[18446744073709551613, 1], rfl⟩
    let wide : Extent 2 := ⟨[18446744073709551613, 2], rfl⟩
    (padded given launch.localRange).outcome = .ok launch ∧
      LeastMultiples given launch.localRange launch.globalRange ∧
      (launch.groupCounts 0).toNat = 18446744073709551613 ⌈/⌉ 3 ∧
      (padded wide launch.localRange).outcome = .error .volumeOverflow ∧
      ∃ multiples, LeastMultiples wide launch.localRange multiples ∧ Word.count ≤ multiples.volume := by
  intro launch given wide
  have built : (padded given launch.localRange).outcome = .ok launch := by decide
  have refused : (padded wide launch.localRange).outcome = .error .volumeOverflow := by decide
  obtain ⟨answers, counts, _⟩ := @padded_builds_least_multiples 2 given launch.localRange launch
  obtain ⟨_, _, excess⟩ := @padded_builds_least_multiples 2 wide launch.localRange launch
  exact ⟨built, (answers.mp built).2.1, (counts built 0).2.2.2, refused, (excess.mp refused).2.2⟩

end LaunchGeometry.Launch
