import LaunchGeometry.Proofs.Launch.Counts

/-! What a launch is answered under device limits.

The answer compares the size of a group first and then the number of groups along
each dimension, and names the first excess. The size that it compares wraps. It is
the number of work items in a group wherever that number is a word, and so for every
launch that has work items at all.
-/

set_option autoImplicit false

namespace LaunchGeometry.Launch

open Coords

variable {D : Nat} {launch : Launch D} {limits : Limits} {size : Nat} {outcome : Except Refusal Unit}

/-- The answer under limits to a launch with a number of work items in each group. -/
inductive Verdict (launch : Launch D) (limits : Limits) (size : Nat) : Except Refusal Unit → Prop where
  | groupTooLarge {reported : Word} : limits.maxGroupSize.toNat < size → reported.toNat = size →
      Verdict launch limits size (.error (.groupTooLarge reported limits.maxGroupSize))
  | tooManyGroups {dim : Fin D} : size ≤ limits.maxGroupSize.toNat →
      limits.maxGroupsPerDim < launch.groupCounts dim →
      (∀ earlier < dim, launch.groupCounts earlier ≤ limits.maxGroupsPerDim) →
      Verdict launch limits size (.error (.tooManyGroups dim (launch.groupCounts dim) limits.maxGroupsPerDim))
  | accepted : size ≤ limits.maxGroupSize.toNat →
      (∀ dim, launch.groupCounts dim ≤ limits.maxGroupsPerDim) → Verdict launch limits size (.ok ())

theorem Verdict.eq_ok_iff (verdict : launch.Verdict limits size outcome) :
    outcome = .ok () ↔
      size ≤ limits.maxGroupSize.toNat ∧ ∀ dim, launch.groupCounts dim ≤ limits.maxGroupsPerDim := by
  cases verdict with
  | groupTooLarge large reported => exact iff_of_false nofun fun within => Nat.not_lt.mpr within.1 large
  | @tooManyGroups dim within many before =>
    exact iff_of_false nofun fun allowed => UInt64.not_lt.mpr (allowed.2 dim) many
  | accepted within allowed => exact iff_of_true rfl ⟨within, allowed⟩

-- Both the limit and the reported size are words.
theorem Verdict.size_lt (verdict : launch.Verdict limits size outcome) : size < Word.count := by
  have limit := Word.toNat_lt limits.maxGroupSize
  cases verdict with
  | @groupTooLarge reported large same => exact same ▸ Word.toNat_lt reported
  | tooManyGroups within many before => exact Nat.lt_of_le_of_lt within limit
  | accepted within allowed => exact Nat.lt_of_le_of_lt within limit

theorem Verdict.unique {other : Except Refusal Unit} (verdict : launch.Verdict limits size outcome)
    (second : launch.Verdict limits size other) : outcome = other := by
  cases verdict with
  | groupTooLarge large reported =>
    cases second with
    | groupTooLarge _ same => rw [UInt64.toNat_inj.mp (reported.trans same.symm)]
    | tooManyGroups within | accepted within => exact absurd large (Nat.not_lt.mpr within)
  | @tooManyGroups dim within many before =>
    cases second with
    | groupTooLarge large => exact absurd large (Nat.not_lt.mpr within)
    | @tooManyGroups place _ more earlier =>
      -- Each of two first excesses is not before the other.
      have least : ¬ place < dim := fun less => UInt64.not_lt.mpr (before place less) more
      have first : ¬ dim < place := fun less => UInt64.not_lt.mpr (earlier dim less) many
      obtain rfl : dim = place := Fin.le_antisymm (Fin.not_lt.mp least) (Fin.not_lt.mp first)
      rfl
    | accepted _ allowed => exact absurd many (UInt64.not_lt.mpr (allowed dim))
  | accepted within allowed =>
    cases second with
    | groupTooLarge large => exact absurd large (Nat.not_lt.mpr within)
    | @tooManyGroups place _ more => exact absurd more (UInt64.not_lt.mpr (allowed place))
    | accepted => rfl

/-- Every check is a verdict on the wrapping size of a group. -/
theorem check_verdict (launch : Launch D) (limits : Limits) :
    launch.Verdict limits launch.groupSize.toNat (launch.check limits).outcome := by
  unfold check
  split
  next large => exact .groupTooLarge (UInt64.lt_iff_toNat_lt.mp large) rfl
  next within =>
    have within := UInt64.le_iff_toNat_le.mp (UInt64.not_lt.mp within)
    dsimp only
    split
    next dim found =>
      obtain ⟨many, before⟩ := firstDim?_eq_some_iff.mp found
      refine .tooManyGroups within (of_decide_eq_true many) fun earlier less => ?_
      exact UInt64.not_lt.mp (of_decide_eq_false (before earlier less))
    next searched =>
      refine .accepted within fun dim => ?_
      exact UInt64.not_lt.mp (of_decide_eq_false (firstDim?_eq_none_iff.mp searched dim))

theorem check_outcome_eq (verdict : launch.Verdict limits launch.groupSize.toNat outcome) :
    (launch.check limits).outcome = outcome := (launch.check_verdict limits).unique verdict

theorem check_outcome_eq_ok_iff :
    (launch.check limits).outcome = .ok () ↔
      launch.groupSize ≤ limits.maxGroupSize ∧ ∀ dim, launch.groupCounts dim ≤ limits.maxGroupsPerDim :=
  (launch.check_verdict limits).eq_ok_iff

theorem check_of_le {larger : Limits} (size : limits.maxGroupSize ≤ larger.maxGroupSize)
    (groups : limits.maxGroupsPerDim ≤ larger.maxGroupsPerDim) (accepted : (launch.check limits).outcome = .ok ()) :
    (launch.check larger).outcome = .ok () := by
  obtain ⟨within, allowed⟩ := check_outcome_eq_ok_iff.mp accepted
  apply check_outcome_eq_ok_iff.mpr
  exact ⟨UInt64.le_trans within size, fun dim => UInt64.le_trans (allowed dim) groups⟩

theorem volume_localRange_lt (occupied : launch.globalRange.Nonzero) :
    launch.localRange.volume < Word.count :=
  toNat_groupSize occupied ▸ Word.toNat_lt launch.groupSize

/-- A check is a verdict on the number of work items in a group exactly where that number is a word. Then
it accepts the launch exactly if a group and every number of groups are within the limits. The number is
a word for every launch with work items. -/
theorem check_verdict_iff (launch : Launch D) (limits : Limits) :
    (launch.Verdict limits launch.localRange.volume (launch.check limits).outcome ↔
      launch.localRange.volume < Word.count) ∧
    (launch.localRange.volume < Word.count → ((launch.check limits).outcome = .ok () ↔
      launch.localRange.volume ≤ limits.maxGroupSize.toNat ∧
        ∀ dim, launch.groupCounts dim ≤ limits.maxGroupsPerDim)) ∧
    (launch.globalRange.Nonzero → launch.localRange.volume < Word.count) := by
  have exact : launch.localRange.volume < Word.count →
      launch.Verdict limits launch.localRange.volume (launch.check limits).outcome := by
    intro fits
    have verdict := launch.check_verdict limits
    rwa [groupSize, toNat_size_of_lt fits] at verdict
  exact ⟨⟨Verdict.size_lt, exact⟩, fun fits => (exact fits).eq_ok_iff, volume_localRange_lt⟩

theorem check_verdict_half :
    let launch : Launch 2 :=
      ⟨⟨[0, 4294967296], rfl⟩, ⟨[4294967296, 2147483648], rfl⟩, ⟨[0, 0], rfl⟩, by decide, by decide⟩
    let limits : Limits := { maxGroupSize := 9223372036854775808, maxGroupsPerDim := 2 }
    launch.localRange.volume < Word.count ∧ (launch.check limits).outcome = .ok () := by
  intro launch limits
  have fits : launch.localRange.volume < Word.count := by decide
  have accepts := (check_verdict_iff launch limits).2.1 fits
  exact ⟨fits, accepts.mpr ⟨by decide, by decide⟩⟩

/-- Without work items a group may have as many of them as there are words. Its size wraps to zero, which
no limit refuses. -/
theorem check_accepts_wrapping_group :
    ∃ launch : Launch 2,
      (exact ⟨[0, 4294967296], rfl⟩ ⟨[4294967296, 4294967296], rfl⟩).outcome = .ok launch ∧
      (launch.check {}).outcome = .ok () ∧
      ({} : Limits).maxGroupSize.toNat < launch.localRange.volume ∧
      ¬ launch.Verdict {} launch.localRange.volume (launch.check {}).outcome := by
  let launch : Launch 2 :=
    ⟨⟨[0, 4294967296], rfl⟩, ⟨[4294967296, 4294967296], rfl⟩, ⟨[0, 0], rfl⟩, by decide, by decide⟩
  have large : launch.localRange.volume = Word.count := by decide
  refine ⟨launch, by decide, by decide, by decide, fun verdict => ?_⟩
  exact Nat.lt_irrefl Word.count (large ▸ verdict.size_lt)

end LaunchGeometry.Launch
