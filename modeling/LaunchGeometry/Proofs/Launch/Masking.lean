import LaunchGeometry.Proofs.Ceiling
import LaunchGeometry.Proofs.Launch.Construction
import LaunchGeometry.Proofs.Launch.Enumeration

/-! The items of a padded launch inside the range as it was given.

A padded range is at least the given one in every dimension. Its items inside the
given range are the items of that range, in the same order, although the counters
that lead to an item in the two launches have nothing to do with each other.
-/

set_option autoImplicit false

namespace LaunchGeometry.Launch

open Coords

variable {D : Nat} {globalRange localRange : Extent D} {launch : Launch D}

theorem tiles_fill_one (globalRange : Extent D) : Tiles (fill D 1) globalRange := by
  intro dim
  rw [fill_apply]
  exact ⟨by decide, UInt64.mod_one⟩

theorem le_of_padded (built : (padded globalRange localRange).outcome = .ok launch) (dim : Fin D) :
    globalRange dim ≤ launch.globalRange dim := by
  obtain ⟨rounded, _, _⟩ := padded_outcome_eq_ok_iff.mp built
  obtain ⟨_, _, least⟩ := Word.roundUp?_eq_some_iff_leastMultiple.mp (roundUp_eq_ok_iff.mp rounded dim)
  exact UInt64.le_iff_toNat_le.mpr least.le

theorem filter_items (launch : Launch D) (inner : Extent D) :
    launch.items.filter (fun id => Inside inner (id - launch.offset)) =
      ((points launch.globalRange).filter fun point => Inside inner point).map (· + launch.offset) := by
  rw [items, List.filter_map]
  congr 2
  funext point
  exact congrArg (fun relative => decide (Inside inner relative)) (Coords.add_sub_cancel point launch.offset)

/-- The range of a padded launch as it was given can be launched item by item. From any offset, the items
of the padded launch whose position is inside the given range are the items of that launch in order. -/
theorem masked_ids_eq (built : (padded globalRange localRange).outcome = .ok launch) (offset : Point D) :
    ∃ unpadded : Launch D, (exact globalRange (fill D 1)).outcome = .ok unpadded ∧
      (launch.withOffset offset).ids.filter (fun id => Inside globalRange (id - offset)) =
        (unpadded.withOffset offset).ids := by
  have within := le_of_padded built
  have fits := Nat.lt_of_le_of_lt (volume_le_volume within) launch.fits
  refine ⟨⟨globalRange, fill D 1, fill D 0, tiles_fill_one globalRange, fits⟩,
    exact_outcome_eq_ok_iff.mpr ⟨rfl, rfl, rfl⟩, ?_⟩
  have selected := filter_items (launch.withOffset offset) globalRange
  rw [ids_eq_items, ids_eq_items]
  exact selected.trans (congrArg (List.map (· + offset)) (filter_points within))

theorem masked_ids_eq_wrapping :
    let launch : Launch 2 := ⟨⟨[2, 4], rfl⟩, ⟨[2, 2], rfl⟩, ⟨[0, 0], rfl⟩, by decide, by decide⟩
    let given : Extent 2 := ⟨[2, 3], rfl⟩
    let offset : Point 2 := ⟨[18446744073709551615, 7], rfl⟩
    let kept : List (Point 2) := [⟨[18446744073709551615, 7], rfl⟩, ⟨[18446744073709551615, 8], rfl⟩,
      ⟨[18446744073709551615, 9], rfl⟩, ⟨[0, 7], rfl⟩, ⟨[0, 8], rfl⟩, ⟨[0, 9], rfl⟩]
    (padded given launch.localRange).outcome = .ok launch ∧ launch.size = 8 ∧
      (launch.withOffset offset).ids.filter (fun id => Inside given (id - offset)) = kept ∧
      ∃ unpadded : Launch 2, (exact given (fill 2 1)).outcome = .ok unpadded ∧
        (unpadded.withOffset offset).ids = kept := by
  intro launch given offset kept
  have built : (padded given launch.localRange).outcome = .ok launch := by decide
  have selected : (launch.withOffset offset).ids.filter (fun id => Inside given (id - offset)) = kept := by decide
  obtain ⟨unpadded, stands, masked⟩ := masked_ids_eq built offset
  exact ⟨built, by decide, selected, unpadded, stands, masked.symm.trans selected⟩

end LaunchGeometry.Launch
