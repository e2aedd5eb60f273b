import LaunchGeometry.Proofs.Canonical.Verdict
import LaunchGeometry.Proofs.Limits.Distribution

/-! The dispatch of a launch.

A launch that passes the check against the limits is dispatched if each of its
group counts is a component. The components are then the group counts of the
canonical form from the last dimension on, whatever the limits are, and the groups
that they count hold the work items of the launch.
-/

set_option autoImplicit false

namespace LaunchGeometry

open Coords

theorem Dispatch.le_of_mem_toList (dispatch : Dispatch) {count : Nat} (member : count ∈ dispatch.toList) :
    count ≤ maxCount.toNat := by
  have x := dispatch.x.toNat_lt
  have y := dispatch.y.toNat_lt
  have z := dispatch.z.toNat_lt
  simp only [toList, List.mem_cons, List.not_mem_nil, or_false] at member
  change count ≤ 4294967295
  omega

namespace Launch

variable {D : Nat} (fits : D ≤ 3) {launch : Launch D} {limits : Limits} {counts : Dispatch}

theorem dispatch_outcome_eq_ok_iff :
    (launch.dispatch fits limits).outcome = .ok counts ↔
      (launch.check limits).outcome = .ok () ∧ launch.dispatchComponents fits = .ok counts := by
  rw [dispatch_outcome]
  cases (launch.check limits).outcome <;> simp [bind, Except.bind]

theorem dispatch_outcome_eq_error_iff {refusal : Refusal} :
    (launch.dispatch fits limits).outcome = .error refusal ↔ (launch.check limits).outcome = .error refusal ∨
      (launch.check limits).outcome = .ok () ∧ launch.dispatchComponents fits = .error refusal := by
  rw [dispatch_outcome]
  cases (launch.check limits).outcome <;> simp [bind, Except.bind]

theorem dispatchComponents_eq_ok_iff :
    launch.dispatchComponents fits = .ok counts ↔
      counts.toList = (embedExtent fits launch.groupCounts).toList.reverse.map UInt64.toNat := by
  rw [← groupCounts_embed, toList_three]
  refine Iff.trans (Dispatch.components_eq_ok_iff : _ ↔ _ ∧ _ ∧ counts.z.toNat = _) ?_
  simp [Dispatch.toList]

theorem exists_dispatchComponents_iff :
    (∃ counts, launch.dispatchComponents fits = .ok counts) ↔
      ∀ dim, launch.groupCounts dim ≤ Dispatch.maxCount := by
  have padded : (∀ dim, (launch.embed fits).groupCounts dim ≤ Dispatch.maxCount) ↔
      ∀ dim, launch.groupCounts dim ≤ Dispatch.maxCount := by
    rw [forall_groupCounts_embed_le_iff]
    exact and_iff_left (.inr (by decide))
  rw [← padded]
  constructor
  · intro answered dim
    obtain ⟨counts, answered⟩ := answered
    apply UInt64.le_iff_toNat_le.mpr
    apply counts.le_of_mem_toList
    rw [(dispatchComponents_eq_ok_iff fits).mp answered, ← groupCounts_embed]
    apply List.mem_map_of_mem
    exact List.mem_reverse.mpr (mem_toList_iff.mpr ⟨dim, rfl⟩)
  · intro small
    exact Dispatch.components_of_le (small 2) (small 1) (small 0)

theorem volume_groupCounts_of_dispatchComponents (answered : launch.dispatchComponents fits = .ok counts) :
    counts.x.toNat * counts.y.toNat * counts.z.toNat = launch.groupCounts.volume := by
  have listed := (dispatchComponents_eq_ok_iff fits).mp answered
  rw [← volume_embedExtent fits, volume]
  rw [toList_three] at listed ⊢
  obtain ⟨x, y, z⟩ : counts.x.toNat = _ ∧ counts.y.toNat = _ ∧ counts.z.toNat = _ := by
    simpa [Dispatch.toList] using listed
  simp only [product, Nat.mul_one]
  rw [← x, ← y, ← z, Nat.mul_comm counts.y.toNat]
  exact Nat.mul_comm _ _

/-- A dispatch succeeds exactly if the check against the limits does and every group count is a component.
Its components are then the group counts of the canonical form, last dimension first, and account for every
work item. No larger limits change it. -/
theorem dispatch_accounts (launch : Launch D) (limits : Limits) :
    ((∃ counts, (launch.dispatch fits limits).outcome = .ok counts) ↔
      (launch.check limits).outcome = .ok () ∧ ∀ dim, (launch.groupCounts dim).toNat ≤ 4294967295) ∧
    ∀ counts, (launch.dispatch fits limits).outcome = .ok counts →
      counts.toList = (embedExtent fits launch.groupCounts).toList.reverse.map UInt64.toNat ∧
      counts.x.toNat * counts.y.toNat * counts.z.toNat * launch.groupSize.toNat = launch.size.toNat ∧
      ∀ larger : Limits, limits.maxGroupSize ≤ larger.maxGroupSize →
        limits.maxGroupsPerDim ≤ larger.maxGroupsPerDim → (launch.dispatch fits larger).outcome = .ok counts := by
  constructor
  · simp only [dispatch_outcome_eq_ok_iff, exists_and_left, exists_dispatchComponents_iff, UInt64.le_iff_toNat_le]
    rfl
  · intro counts dispatched
    obtain ⟨accepted, answered⟩ := (dispatch_outcome_eq_ok_iff fits).mp dispatched
    refine ⟨(dispatchComponents_eq_ok_iff fits).mp answered, ?_, ?_⟩
    · rw [volume_groupCounts_of_dispatchComponents fits answered]
      exact launch.volume_groupCounts_mul_groupSize
    · intro larger size groups
      exact (dispatch_outcome_eq_ok_iff fits).mpr ⟨check_of_le size groups accepted, answered⟩

theorem dispatch_accounts_empty :
    let fits : 2 ≤ 3 := by decide
    let launch : Launch 2 :=
      ⟨⟨[0, 12884901888], rfl⟩, ⟨[4294967296, 4294967296], rfl⟩, ⟨[7, 0], rfl⟩, by decide, by decide⟩
    let wide : Launch 2 := ⟨⟨[4294967296, 2], rfl⟩, ⟨[1, 2], rfl⟩, ⟨[0, 0], rfl⟩, by decide, by decide⟩
    let generous : Limits := { maxGroupsPerDim := 18446744073709551615 }
    launch.localRange.volume = Word.count ∧
      (launch.dispatch fits { maxGroupsPerDim := 3 }).outcome = .ok ⟨3, 0, 1⟩ ∧
      3 * 0 * 1 * launch.groupSize.toNat = launch.size.toNat ∧
      (3 : Word) ≤ 65535 ∧ (launch.dispatch fits {}).outcome = .ok ⟨3, 0, 1⟩ ∧
      (wide.check generous).outcome = .ok () ∧
      ¬ ∃ counts, (wide.dispatch fits generous).outcome = .ok counts := by
  intro fits launch wide generous
  have dispatched : (launch.dispatch fits { maxGroupsPerDim := 3 }).outcome = .ok ⟨3, 0, 1⟩ := by decide
  obtain ⟨_, balanced, larger⟩ := (dispatch_accounts fits launch { maxGroupsPerDim := 3 }).2 _ dispatched
  have refused : ¬ ∃ counts, (wide.dispatch fits generous).outcome = .ok counts :=
    mt (dispatch_accounts fits wide generous).1.mp fun answered => absurd (answered.2 0) (by decide)
  exact ⟨by decide, dispatched, balanced, by decide, larger {} (by decide) (by decide), by decide, refused⟩

end Launch

end LaunchGeometry
