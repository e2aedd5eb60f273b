import LaunchGeometry.Proofs.Launch.Slots

/-! Where a launch locates an id, whether the id is one of its items or not.

An id that lies below the offset in some dimension is refused. Any other has one place: the number
of whole groups between the offset and the id, and what is left of the distance. Put together they
are the id again in exact arithmetic, so that an id beyond the launch is located as well, in a group
that the launch does not have. Whether it has the group decides whether the id is in its range, since
no group is partial.
-/

set_option autoImplicit false

namespace LaunchGeometry.Launch

open Coords

variable {D : Nat} {launch : Launch D} {slot : Slot D} {id : Point D}

/-- The position is inside a group, and behind the offset and whole groups it is the id, without wrapping. -/
def Places (launch : Launch D) (slot : Slot D) (id : Point D) : Prop :=
  ∀ dim, slot.item dim < launch.localRange dim ∧
    (id dim).toNat = (launch.offset dim).toNat +
      (slot.group dim).toNat * (launch.localRange dim).toNat + (slot.item dim).toNat

theorem Places.offset_le (placed : launch.Places slot id) (dim : Fin D) : launch.offset dim ≤ id dim := by
  have exact := (placed dim).2
  rw [UInt64.le_iff_toNat_le]
  omega

theorem toNat_sub_offset (above : ∀ dim, launch.offset dim ≤ id dim) (dim : Fin D) :
    ((id - launch.offset) dim).toNat = (id dim).toNat - (launch.offset dim).toNat := by
  rw [sub_apply, UInt64.toNat_sub_of_le _ _ (above dim)]

theorem slotOf_sub_offset_eq_iff (above : ∀ dim, launch.offset dim ≤ id dim) :
    launch.slotOf (id - launch.offset) = slot ↔ launch.Places slot id := by
  rw [slotOf_eq_iff]
  refine forall_congr' fun dim => and_congr_right fun _ => ?_
  have least := UInt64.le_iff_toNat_le.mp (above dim)
  rw [toNat_sub_offset above]
  omega

theorem locate_eq_ok_iff : launch.locate id = .ok slot ↔ launch.Places slot id := by
  by_cases above : ∀ dim, launch.offset dim ≤ id dim
  · rw [locate_eq_ok above, Except.ok.injEq, slotOf_sub_offset_eq_iff above]
  · rw [locate, if_neg above]
    exact iff_of_false nofun fun placed => above placed.offset_le

theorem exists_locate_iff : (∃ slot, launch.locate id = .ok slot) ↔ ∀ dim, launch.offset dim ≤ id dim := by
  constructor
  · intro located
    obtain ⟨slot, located⟩ := located
    exact (locate_eq_ok_iff.mp located).offset_le
  · intro above
    exact ⟨_, locate_eq_ok above⟩

theorem locate_eq_error_iff :
    launch.locate id = .error ⟨id, launch.offset⟩ ↔ ∃ dim, id dim < launch.offset dim := by
  by_cases above : ∀ dim, launch.offset dim ≤ id dim
  · have least : ¬ ∃ dim, id dim < launch.offset dim := by simpa using above
    rw [locate_eq_ok above]
    exact iff_of_false nofun least
  · have below : ∃ dim, id dim < launch.offset dim := by simpa using above
    rw [locate, if_neg above]
    exact iff_of_true rfl below

theorem Places.inside_group_iff (placed : launch.Places slot id) :
    Inside launch.groupCounts slot.group ↔
      ∀ dim, (id dim).toNat - (launch.offset dim).toNat < (launch.globalRange dim).toNat := by
  have above := placed.offset_le
  rw [← (slotOf_sub_offset_eq_iff above).mpr placed, inside_group_slotOf_iff]
  refine forall_congr' fun dim => ?_
  rw [UInt64.lt_iff_toNat_lt, toNat_sub_offset above]

/-- An id is refused exactly if it is below the offset in some dimension, and none of the divisions behind
its slot ever faults. Otherwise its slot is the only one that leads back to it in exact arithmetic. The launch
has the group of the slot exactly if the id is within the global range from the offset on. -/
theorem locate_decomposes (launch : Launch D) (id : Point D) :
    (launch.locate id = .error ⟨id, launch.offset⟩ ↔ ∃ dim, id dim < launch.offset dim) ∧
    ((∃ slot, launch.locate id = .ok slot) ↔ ∀ dim, launch.offset dim ≤ id dim) ∧
    (∃ group item, (id - launch.offset).div launch.localRange = .ok group ∧
      (id - launch.offset).rem launch.localRange = .ok item) ∧
    ∀ slot, (launch.locate id = .ok slot ↔ launch.Places slot id) ∧
      (launch.locate id = .ok slot → (Inside launch.groupCounts slot.group ↔
        ∀ dim, (id dim).toNat - (launch.offset dim).toNat < (launch.globalRange dim).toNat)) := by
  refine ⟨locate_eq_error_iff, exists_locate_iff, ?_, fun slot => ⟨locate_eq_ok_iff, fun located => ?_⟩⟩
  · exact ⟨_, _, div_eq_quotient _ _ launch.nonzero_localRange, rem_eq_remainder _ _ launch.nonzero_localRange⟩
  · exact (locate_eq_ok_iff.mp located).inside_group_iff

theorem locate_decomposes_at_top :
    let launch : Launch 2 :=
      ⟨⟨[4, 6], rfl⟩, ⟨[2, 3], rfl⟩, ⟨[18446744073709551612, 18446744073709551607], rfl⟩,
        by decide, by decide⟩
    let last : Point 2 := ⟨[18446744073709551615, 18446744073709551615], rfl⟩
    let slot : Slot 2 := ⟨⟨[1, 2], rfl⟩, ⟨[1, 2], rfl⟩⟩
    let below : Point 2 := ⟨[18446744073709551611, 18446744073709551615], rfl⟩
    launch.locate last = .ok slot ∧ launch.Places slot last ∧ ¬ Inside launch.groupCounts slot.group ∧
      launch.locate below = .error ⟨below, launch.offset⟩ := by
  intro launch last slot below
  have located : launch.locate last = .ok slot := by decide
  obtain ⟨_, _, _, places⟩ := locate_decomposes launch last
  refine ⟨located, (places slot).1.mp located, fun inside => ?_, ?_⟩
  · exact absurd (((places slot).2 located).mp inside 1) (by decide)
  · exact (locate_decomposes launch below).1.mpr ⟨0, by decide⟩

end LaunchGeometry.Launch
