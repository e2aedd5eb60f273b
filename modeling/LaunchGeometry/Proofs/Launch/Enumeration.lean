import LaunchGeometry.Proofs.Launch.Cursor
import Mathlib.Data.List.Nodup

/-! What the enumeration of a launch answers.

The items are the points of the global range in row-major order, shifted by the
offset. The shift is a bijection on vectors even where components wrap, so that
each item is answered once and nothing else is.
-/

set_option autoImplicit false

namespace LaunchGeometry.Launch

open Coords

variable {D : Nat}

theorem mem_items_iff {launch : Launch D} {id : Point D} :
    id ∈ launch.items ↔ ∃ relative, Inside launch.globalRange relative ∧ id = relative + launch.offset := by
  simp only [items, List.mem_map, mem_points_iff, eq_comm]

theorem map_sub_items (launch : Launch D) :
    launch.items.map (· - launch.offset) = points launch.globalRange := by
  rw [items, List.map_map]
  have restored : ((· - launch.offset) ∘ (· + launch.offset)) = (id : Point D → Point D) := by
    funext point
    exact Coords.add_sub_cancel point launch.offset
  rw [restored, List.map_id]

theorem nodup_items (launch : Launch D) : launch.items.Nodup := by
  have different := nodup_points launch.globalRange
  rw [← map_sub_items] at different
  exact List.Nodup.of_map _ different

/-- Collecting the ids from a cursor answers as many ids as the launch has items. Relative to the
offset they ascend in row-major order, and they are the shifted points of the global range: each of
them once, also where the shift wraps or the range is empty. -/
theorem ids_enumerate (launch : Launch D) (offset : Point D) :
    let moved := launch.withOffset offset
    (∀ ids, (ItemCursor.start moved).Collects ids ↔ ids = moved.ids) ∧
      moved.ids.length = moved.size.toNat ∧
      (moved.ids.map (· - offset)).Pairwise Precedes ∧
      moved.ids.Nodup ∧
      ∀ id, id ∈ moved.ids ↔ ∃ relative, Inside moved.globalRange relative ∧ id = offset + relative := by
  intro moved
  rw [ids_eq_items]
  refine ⟨fun ids => ⟨?_, ?_⟩, length_items moved, ?_, nodup_items moved, fun id => ?_⟩
  · exact fun collects => collects.eq_pending
  · intro same
    subst same
    exact (ItemCursor.start moved).collects_pending
  · have ascending := pairwise_points moved.globalRange
    rwa [← map_sub_items] at ascending
  · simp only [mem_items_iff, Coords.add_comm offset]
    rfl

example :
    (Launch.withOffset ⟨⟨[2], rfl⟩, ⟨[1], rfl⟩, ⟨[0], rfl⟩, by decide, by decide⟩
      ⟨[18446744073709551615], rfl⟩).ids.map toList = [[18446744073709551615], [0]] := by
  decide

end LaunchGeometry.Launch
