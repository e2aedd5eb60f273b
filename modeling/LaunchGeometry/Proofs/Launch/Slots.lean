import LaunchGeometry.Launch.Slot
import LaunchGeometry.Proofs.Arithmetic
import LaunchGeometry.Proofs.Launch.Counts
import LaunchGeometry.Proofs.Launch.Enumeration

/-! Work items and slots are in bijection.

An item relative to the offset splits into a group and a position in the group.
Groups tile the range exactly, so that the items of the range are the slots of
all groups, and no component of a slot of the launch wraps on the way back.
-/

set_option autoImplicit false

namespace LaunchGeometry.Launch

open Coords

variable {D : Nat} {launch : Launch D} {slot : Slot D} {relative id : Point D}

def slots (launch : Launch D) : List (Slot D) :=
  (points launch.groupCounts).flatMap fun group => (points launch.localRange).map fun item => ⟨group, item⟩

theorem mem_slots_iff :
    slot ∈ launch.slots ↔ Inside launch.groupCounts slot.group ∧ Inside launch.localRange slot.item := by
  simp only [slots, List.mem_flatMap, List.mem_map, mem_points_iff]
  constructor
  · intro listed
    obtain ⟨group, counted, item, inside, rfl⟩ := listed
    exact ⟨counted, inside⟩
  · intro within
    obtain ⟨counted, inside⟩ := within
    exact ⟨slot.group, counted, slot.item, inside, rfl⟩

theorem nodup_slots (launch : Launch D) : launch.slots.Nodup := by
  refine List.nodup_flatMap.mpr ⟨fun group _ => ?_, (nodup_points launch.groupCounts).imp ?_⟩
  · exact (nodup_points launch.localRange).map fun item other same => congrArg Slot.item same
  · intro group other apart slot here there
    obtain ⟨item, _, rfl⟩ := List.mem_map.mp here
    obtain ⟨place, _, same⟩ := List.mem_map.mp there
    exact apart (congrArg Slot.group same).symm

-- Both directions are taken relative to the offset, which moves every item alike.
def slotOf (launch : Launch D) (relative : Point D) : Slot D where
  group := relative.quotient launch.localRange launch.nonzero_localRange
  item := relative.remainder launch.localRange launch.nonzero_localRange

def relativeOf (launch : Launch D) (slot : Slot D) : Point D := slot.group * launch.localRange + slot.item

theorem locate_eq_ok (above : ∀ dim, launch.offset dim ≤ id dim) :
    launch.locate id = .ok (launch.slotOf (id - launch.offset)) := if_pos above

theorem relativeOf_slotOf (launch : Launch D) (relative : Point D) :
    launch.relativeOf (launch.slotOf relative) = relative :=
  quotient_mul_add_remainder relative launch.localRange launch.nonzero_localRange

/-- Along each dimension the slot is the only quotient and remainder that lead back to the relative id. -/
theorem slotOf_eq_iff :
    launch.slotOf relative = slot ↔ ∀ dim, slot.item dim < launch.localRange dim ∧
      (slot.group dim).toNat * (launch.localRange dim).toNat + (slot.item dim).toNat = (relative dim).toNat := by
  obtain ⟨group, item⟩ := slot
  rw [slotOf, Slot.mk.injEq, Coords.ext_iff, Coords.ext_iff, ← forall_and]
  refine forall_congr' fun dim => ?_
  have unique := Nat.div_mod_unique (launch.localRange_pos dim) (a := (relative dim).toNat)
    (c := (item dim).toNat) (d := (group dim).toNat)
  rw [quotient_apply, remainder_apply, ← UInt64.toNat_inj, ← UInt64.toNat_inj, UInt64.toNat_div,
    UInt64.toNat_mod, unique, UInt64.lt_iff_toNat_lt, and_comm, Nat.add_comm, Nat.mul_comm]

theorem inside_item_slotOf (launch : Launch D) (relative : Point D) :
    Inside launch.localRange (launch.slotOf relative).item :=
  remainder_lt relative launch.localRange launch.nonzero_localRange

-- With a partial last group only one direction would hold.
theorem inside_group_slotOf_iff :
    Inside launch.groupCounts (launch.slotOf relative).group ↔ Inside launch.globalRange relative := by
  apply forall_congr'
  intro dim
  rw [slotOf, quotient_apply, UInt64.lt_iff_toNat_lt, UInt64.lt_iff_toNat_lt, UInt64.toNat_div,
    Nat.div_lt_iff_lt_mul (launch.localRange_pos dim), toNat_groupCounts_mul]

theorem toNat_relativeOf (counted : Inside launch.groupCounts slot.group)
    (inside : Inside launch.localRange slot.item) (dim : Fin D) :
    (launch.relativeOf slot dim).toNat =
      (slot.group dim).toNat * (launch.localRange dim).toNat + (slot.item dim).toNat := by
  have group := UInt64.lt_iff_toNat_lt.mp (counted dim)
  have item := UInt64.lt_iff_toNat_lt.mp (inside dim)
  have bound := UInt64.toNat_lt (launch.globalRange dim)
  -- The whole row of the group is within the global range, so that the sum is one word.
  have row := Nat.mul_le_mul_right (launch.localRange dim).toNat (Nat.succ_le_of_lt group)
  rw [Nat.succ_mul, toNat_groupCounts_mul] at row
  rw [relativeOf, add_apply, mul_apply, UInt64.toNat_add, UInt64.toNat_mul, Nat.mod_add_mod]
  exact Nat.mod_eq_of_lt (by omega)

theorem slotOf_relativeOf (counted : Inside launch.groupCounts slot.group)
    (inside : Inside launch.localRange slot.item) : launch.slotOf (launch.relativeOf slot) = slot :=
  slotOf_eq_iff.mpr fun dim => ⟨inside dim, (toNat_relativeOf counted inside dim).symm⟩

theorem map_slotOf_points_perm (launch : Launch D) :
    ((points launch.globalRange).map launch.slotOf).Perm launch.slots := by
  have injective : Function.Injective launch.slotOf :=
    Function.LeftInverse.injective launch.relativeOf_slotOf
  rw [List.perm_ext_iff_of_nodup ((nodup_points launch.globalRange).map injective) launch.nodup_slots]
  intro slot
  rw [List.mem_map, mem_slots_iff]
  constructor
  · intro split
    obtain ⟨relative, member, rfl⟩ := split
    exact ⟨inside_group_slotOf_iff.mpr (mem_points_iff.mp member), launch.inside_item_slotOf relative⟩
  · intro within
    obtain ⟨counted, inside⟩ := within
    have back := slotOf_relativeOf counted inside
    refine ⟨launch.relativeOf slot, ?_, back⟩
    rw [mem_points_iff, ← inside_group_slotOf_iff, back]
    exact counted

theorem offset_le_of_mem_items
    (unwrapped : ∀ dim, (launch.offset dim).toNat + (launch.globalRange dim).toNat ≤ Word.count)
    (member : id ∈ launch.items) (dim : Fin D) : launch.offset dim ≤ id dim := by
  obtain ⟨relative, inside, rfl⟩ := mem_items_iff.mp member
  have below := UInt64.lt_iff_toNat_lt.mp (inside dim)
  have room := unwrapped dim
  rw [add_apply, Word.le_add_iff]
  omega

theorem mapM_eq_ok {α β ε : Type} {action : α → Except ε β} {result : α → β} {entries : List α}
    (succeeds : ∀ entry ∈ entries, action entry = .ok (result entry)) :
    entries.mapM action = .ok (entries.map result) := by
  induction entries with
  | nil => rfl
  | cons entry entries ih =>
    have first := succeeds entry (by simp)
    have rest := ih fun later member => succeeds later (List.mem_cons_of_mem entry member)
    rw [List.mapM_cons, first, rest]
    rfl

/-- Unless an item wraps, every item of a launch is located, and the slots of all items are the
positions of all groups: each of them once. -/
theorem locate_ids_perm
    (unwrapped : ∀ dim, (launch.offset dim).toNat + (launch.globalRange dim).toNat ≤ Word.count) :
    ∃ located, launch.ids.mapM launch.locate = .ok located ∧ located.Perm launch.slots ∧ located.Nodup := by
  have perm := launch.map_slotOf_points_perm
  refine ⟨(points launch.globalRange).map launch.slotOf, ?_, perm, perm.nodup_iff.mpr launch.nodup_slots⟩
  rw [ids_eq_items, ← map_sub_items, List.map_map]
  exact mapM_eq_ok fun id member => locate_eq_ok (offset_le_of_mem_items unwrapped member)

theorem locate_ids_perm_at_top :
    let launch : Launch 2 :=
      ⟨⟨[4, 6], rfl⟩, ⟨[2, 3], rfl⟩, ⟨[18446744073709551612, 1], rfl⟩, by decide, by decide⟩
    (∀ dim, (launch.offset dim).toNat + (launch.globalRange dim).toNat ≤ Word.count) ∧
      ∃ located, launch.ids.mapM launch.locate = .ok located ∧ located.Perm launch.slots ∧ located.Nodup := by
  intro launch
  have unwrapped : ∀ dim, (launch.offset dim).toNat + (launch.globalRange dim).toNat ≤ Word.count := by decide
  exact ⟨unwrapped, locate_ids_perm unwrapped⟩

end LaunchGeometry.Launch
