import LaunchGeometry.Proofs.Launch.Slots
import LaunchGeometry.Proofs.RowMajor.Linearization

/-! Which of its own items a launch locates.

The enumeration adds the offset to a position, and the sum wraps. Locating an item takes the
offset off again, which leads back to the position in any case, but an item below the offset
is refused before. So an item is refused exactly if it has wrapped in some dimension. The item
in the last corner of the range is the first to do so.
-/

set_option autoImplicit false

namespace LaunchGeometry.Launch

open Coords

variable {D : Nat} {launch : Launch D} {relative : Point D}

/-- The position and the offset do not sum to a word in some dimension. -/
def Wraps (launch : Launch D) (relative : Point D) : Prop :=
  ∃ dim, Word.count ≤ (relative dim).toNat + (launch.offset dim).toNat

instance (launch : Launch D) (relative : Point D) : Decidable (launch.Wraps relative) :=
  inferInstanceAs (Decidable (∃ dim, Word.count ≤ (relative dim).toNat + (launch.offset dim).toNat))

/-- The words above the offset leave room for the whole global range. -/
def OffsetFits (launch : Launch D) : Prop :=
  ∀ dim, (launch.offset dim).toNat + (launch.globalRange dim).toNat ≤ Word.count

instance (launch : Launch D) : Decidable launch.OffsetFits :=
  inferInstanceAs (Decidable (∀ dim, (launch.offset dim).toNat + (launch.globalRange dim).toNat ≤ Word.count))

theorem forall_ids_iff {property : Point D → Prop} :
    (∀ id ∈ launch.ids, property id) ↔
      ∀ relative, Inside launch.globalRange relative → property (relative + launch.offset) := by
  rw [ids_eq_items]
  constructor
  · intro every relative inside
    exact every _ (mem_items_iff.mpr ⟨relative, inside, rfl⟩)
  · intro every id listed
    obtain ⟨relative, inside, rfl⟩ := mem_items_iff.mp listed
    exact every relative inside

theorem offset_le_add_iff :
    (∀ dim, launch.offset dim ≤ (relative + launch.offset) dim) ↔ ¬ launch.Wraps relative := by
  rw [Wraps, not_exists]
  refine forall_congr' fun dim => ?_
  rw [add_apply, Word.le_add_iff, Nat.not_le]

theorem locate_add_offset (launch : Launch D) (relative : Point D) :
    launch.locate (relative + launch.offset) =
      if launch.Wraps relative then .error ⟨relative + launch.offset, launch.offset⟩
      else .ok (launch.slotOf relative) := by
  by_cases wraps : launch.Wraps relative
  · rw [if_pos wraps, locate, if_neg (mt offset_le_add_iff.mp (not_not_intro wraps))]
  · rw [if_neg wraps, locate_eq_ok (offset_le_add_iff.mpr wraps), Coords.add_sub_cancel]

theorem exists_locate_add_offset_iff :
    (∃ slot, launch.locate (relative + launch.offset) = .ok slot) ↔ ¬ launch.Wraps relative := by
  rw [locate_add_offset]
  split
  next wraps => exact iff_of_false nofun (not_not_intro wraps)
  next fits => exact iff_of_true ⟨_, rfl⟩ fits

def lastCorner (extent : Extent D) : Point D := extent.map (· - 1)

theorem toNat_lastCorner {extent : Extent D} (nonzero : extent.Nonzero) (dim : Fin D) :
    (lastCorner extent dim).toNat + 1 = (extent dim).toNat := by
  have positive := Word.toNat_pos (nonzero dim)
  have least : (1 : Word) ≤ extent dim := UInt64.le_iff_toNat_le.mpr positive
  rw [lastCorner, map_apply, UInt64.toNat_sub_of_le _ _ least]
  exact Nat.sub_add_cancel positive

theorem inside_lastCorner {extent : Extent D} (nonzero : extent.Nonzero) : Inside extent (lastCorner extent) := by
  intro dim
  have last := toNat_lastCorner nonzero dim
  rw [UInt64.lt_iff_toNat_lt]
  omega

theorem not_wraps_lastCorner_iff (occupied : launch.globalRange.Nonzero) :
    ¬ launch.Wraps (lastCorner launch.globalRange) ↔ launch.OffsetFits := by
  rw [Wraps, not_exists]
  refine forall_congr' fun dim => ?_
  have last := toNat_lastCorner occupied dim
  omega

theorem not_wraps_of_inside (room : launch.OffsetFits) (inside : Inside launch.globalRange relative) :
    ¬ launch.Wraps relative := by
  intro wraps
  obtain ⟨dim, large⟩ := wraps
  have below := UInt64.lt_iff_toNat_lt.mp (inside dim)
  have fits := room dim
  omega

-- Without items there is no last corner, and nothing to refuse.
theorem forall_not_wraps_iff :
    (∀ relative, Inside launch.globalRange relative → ¬ launch.Wraps relative) ↔
      (launch.globalRange.Nonzero → launch.OffsetFits) := by
  constructor
  · intro unwrapped occupied
    exact (not_wraps_lastCorner_iff occupied).mp (unwrapped _ (inside_lastCorner occupied))
  · intro room relative inside
    exact not_wraps_of_inside (room (nonzero_of_inside inside)) inside

/-- A launch locates all of its items exactly if it has none or its offset leaves room for the whole range,
which is where no item lies below the offset. Otherwise it refuses those of its items that have wrapped, and
no others. -/
theorem locates_ids_iff (launch : Launch D) :
    ((∀ id ∈ launch.ids, ∃ slot, launch.locate id = .ok slot) ↔
      (launch.globalRange.Nonzero → launch.OffsetFits)) ∧
    ((∀ id ∈ launch.ids, ∀ dim, launch.offset dim ≤ id dim) ↔
      (launch.globalRange.Nonzero → launch.OffsetFits)) ∧
    (∀ relative, Inside launch.globalRange relative → relative + launch.offset ∈ launch.ids ∧
      launch.locate (relative + launch.offset) =
        if launch.Wraps relative then .error ⟨relative + launch.offset, launch.offset⟩
        else .ok (launch.slotOf relative)) ∧
    ∀ id ∈ launch.ids, ∃ relative, Inside launch.globalRange relative ∧ id = relative + launch.offset := by
  refine ⟨?_, ?_, fun relative inside => ⟨?_, launch.locate_add_offset relative⟩, fun id listed => ?_⟩
  · rw [forall_ids_iff, ← forall_not_wraps_iff]
    exact forall₂_congr fun relative inside => exists_locate_add_offset_iff
  · rw [forall_ids_iff, ← forall_not_wraps_iff]
    exact forall₂_congr fun relative inside => offset_le_add_iff
  · rw [ids_eq_items]
    exact mem_items_iff.mpr ⟨relative, inside, rfl⟩
  · rw [ids_eq_items] at listed
    exact mem_items_iff.mp listed

theorem locates_ids_wrapping :
    let launch : Launch 2 :=
      ⟨⟨[3, 2], rfl⟩, ⟨[1, 2], rfl⟩, ⟨[18446744073709551614, 7], rfl⟩, by decide, by decide⟩
    let lower := launch.withOffset ⟨[18446744073709551613, 7], rfl⟩
    let empty : Launch 2 :=
      ⟨⟨[3, 0], rfl⟩, ⟨[1, 2], rfl⟩, ⟨[18446744073709551614, 7], rfl⟩, by decide, by decide⟩
    let wrapped : Point 2 := ⟨[2, 1], rfl⟩
    Inside launch.globalRange wrapped ∧ wrapped + launch.offset ∈ launch.ids ∧
      launch.locate (wrapped + launch.offset) = .error ⟨⟨[0, 8], rfl⟩, launch.offset⟩ ∧
      lower.OffsetFits ∧ (∀ id ∈ lower.ids, ∃ slot, lower.locate id = .ok slot) ∧
      ¬ empty.globalRange.Nonzero ∧ ∀ id ∈ empty.ids, ∃ slot, empty.locate id = .ok slot := by
  intro launch lower empty wrapped
  have inside : Inside launch.globalRange wrapped := by decide
  have room : lower.OffsetFits := by decide
  have vacant : ¬ empty.globalRange.Nonzero := by decide
  obtain ⟨listed, refused⟩ := (locates_ids_iff launch).2.2.1 wrapped inside
  exact ⟨inside, listed, refused.trans (by decide), room, (locates_ids_iff lower).1.mpr fun _ => room,
    vacant, (locates_ids_iff empty).1.mpr fun occupied => absurd occupied vacant⟩

/-- The second of two items of a launch from the largest word is zero, and the launch does not locate it. -/
theorem locate_refuses_own_id :
    ∃ launch : Launch 1, (exact ⟨[2], rfl⟩ ⟨[1], rfl⟩).outcome = .ok launch ∧
      let moved := launch.withOffset ⟨[18446744073709551615], rfl⟩
      ⟨[0], rfl⟩ ∈ moved.ids ∧ moved.locate ⟨[0], rfl⟩ = .error ⟨⟨[0], rfl⟩, moved.offset⟩ :=
  ⟨⟨⟨[2], rfl⟩, ⟨[1], rfl⟩, ⟨[0], rfl⟩, by decide, by decide⟩, by decide, by decide, by decide⟩

end LaunchGeometry.Launch
