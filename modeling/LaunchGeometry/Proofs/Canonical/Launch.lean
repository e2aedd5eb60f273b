import LaunchGeometry.Launch.Items
import LaunchGeometry.Launch.Slot
import LaunchGeometry.Proofs.Canonical.Coords

/-! Launches in canonical form.

The canonical form of a launch has the same counts, and one group along every
dimension that is padding. Each step of its cursor answers the embedded item and
leaves the canonical form of the cursor that is left in the launch, so that whole
runs agree. Locating an embedded id answers or faults as locating the id does.
-/

set_option autoImplicit false

namespace LaunchGeometry

open Coords

variable {D : Nat} (fits : D ≤ 3)

def Slot.embed (slot : Slot D) : Slot 3 := ⟨embedPoint fits slot.group, embedPoint fits slot.item⟩

def BelowOffset.embed (fault : BelowOffset D) : BelowOffset 3 :=
  ⟨embedPoint fits fault.id, embedPoint fits fault.offset⟩

namespace Launch

theorem size_embed (launch : Launch D) : (launch.embed fits).size = launch.size :=
  size_embedExtent fits launch.globalRange

theorem groupSize_embed (launch : Launch D) : (launch.embed fits).groupSize = launch.groupSize :=
  size_embedExtent fits launch.localRange

theorem groupCounts_embed (launch : Launch D) :
    (launch.embed fits).groupCounts = embedExtent fits launch.groupCounts :=
  quotient_embed fits 1 launch.globalRange launch.nonzero_localRange (launch.embed fits).nonzero_localRange

theorem idAt_embed (launch : Launch D) {position : Word} (inside : position < launch.size)
    (within : position < (launch.embed fits).size) :
    (launch.embed fits).idAt position within = embedPoint fits (launch.idAt position inside) := by
  have nonzero := nonzero_of_lt_size inside
  obtain ⟨point, decoded⟩ := delinearize_eq_ok nonzero position
  have padded : (launch.embed fits).globalRange.delinearize position = .ok (embedPoint fits point) :=
    delinearize_embedExtent fits nonzero decoded
  rw [idAt, idAt, certain_eq _ decoded, certain_eq _ padded, embedPoint_add]
  rfl

end Launch

namespace ItemCursor

def embed (cursor : ItemCursor D) : ItemCursor 3 where
  launch := cursor.launch.embed fits
  position := cursor.position
  bounded := (cursor.launch.size_embed fits).symm ▸ cursor.bounded

theorem next_embed (cursor : ItemCursor D) :
    (cursor.embed fits).next = (cursor.next.1.map (embedPoint fits), cursor.next.2.embed fits) := by
  have same := cursor.launch.size_embed fits
  by_cases inside : cursor.position < cursor.launch.size
  · have within : (cursor.embed fits).position < (cursor.embed fits).launch.size := same.symm ▸ inside
    rw [next, next, dif_pos inside, dif_pos within]
    apply Prod.ext
    · exact congrArg some (cursor.launch.idAt_embed fits inside within)
    · rfl
  · have past : ¬ (cursor.embed fits).position < (cursor.embed fits).launch.size := same.symm ▸ inside
    rw [next, next, dif_neg inside, dif_neg past]
    rfl

theorem take_embed (count : Nat) (cursor : ItemCursor D) :
    (cursor.embed fits).take count =
      ((cursor.take count).1.map (embedPoint fits), (cursor.take count).2.embed fits) := by
  induction count generalizing cursor with
  | zero => rfl
  | succ count ih =>
    rw [take, take, next_embed]
    cases answered : cursor.next with
    | mk answer rest =>
      cases answer with
      | none => rfl
      | some id => simp [ih]

end ItemCursor

namespace Launch

theorem ids_embed (launch : Launch D) : (launch.embed fits).ids = launch.ids.map (embedPoint fits) := by
  have run := ItemCursor.take_embed fits launch.size.toNat (ItemCursor.start launch)
  rw [ids, size_embed]
  exact congrArg Prod.fst run

theorem locate_embed (launch : Launch D) (id : Point D) :
    (launch.embed fits).locate (embedPoint fits id) =
      ((launch.locate id).map (Slot.embed fits)).mapError (BelowOffset.embed fits) := by
  have same : (∀ dim, (launch.embed fits).offset dim ≤ embedPoint fits id dim) ↔
      ∀ dim, launch.offset dim ≤ id dim :=
    forall_embed_iff fits (· ≤ ·) 0 0 (by decide)
  by_cases above : ∀ dim, launch.offset dim ≤ id dim
  · rw [locate, locate, if_pos above, if_pos (same.mpr above)]
    have relative : embedPoint fits id - (launch.embed fits).offset = embedPoint fits (id - launch.offset) :=
      (embedPoint_sub fits id launch.offset).symm
    have positive := launch.nonzero_localRange
    have padded := (launch.embed fits).nonzero_localRange
    have group := quotient_embed fits 0 (id - launch.offset) positive padded
    have item := remainder_embed fits 0 (id - launch.offset) positive padded
    rw [relative]
    exact congrArg Except.ok (congr (congrArg Slot.mk group) item)
  · rw [locate, locate, if_neg above, if_neg (mt same.mp above)]
    rfl

/-- The canonical form of a launch simulates it: it has the same sizes and the embedded group counts, its
ids are the embedded ids in the same order, and an embedded id has the embedded group and item, unless the
id lies before the offset of the launch. -/
theorem embed_simulates (launch : Launch D) :
    (launch.embed fits).size = launch.size ∧
      (launch.embed fits).groupSize = launch.groupSize ∧
      (launch.embed fits).groupCounts = embedExtent fits launch.groupCounts ∧
      (launch.embed fits).ids = launch.ids.map (embedPoint fits) ∧
      (launch.embed fits).ids.map (trailing fits) = launch.ids ∧
      ∀ id, (launch.embed fits).locate (embedPoint fits id) =
        ((launch.locate id).map (Slot.embed fits)).mapError (BelowOffset.embed fits) := by
  have items := launch.ids_embed fits
  refine ⟨launch.size_embed fits, launch.groupSize_embed fits, launch.groupCounts_embed fits, items, ?_,
    launch.locate_embed fits⟩
  have restored : trailing fits ∘ embedPoint fits = (id : Point D → Point D) := by
    funext point
    exact trailing_embed fits 0 point
  rw [items, List.map_map, restored, List.map_id]

theorem embed_simulates_wrapping :
    let fits : 2 ≤ 3 := by decide
    let launch : Launch 2 :=
      ⟨⟨[2, 4], rfl⟩, ⟨[1, 2], rfl⟩, ⟨[18446744073709551615, 7], rfl⟩, by decide, by decide⟩
    let before : Point 2 := ⟨[0, 8], rfl⟩
    let last : Point 2 := ⟨[18446744073709551615, 10], rfl⟩
    (launch.embed fits).ids = launch.ids.map (embedPoint fits) ∧ before ∈ launch.ids ∧ last ∈ launch.ids ∧
      (launch.embed fits).locate (embedPoint fits before) =
        .error ⟨⟨[0, 0, 8], rfl⟩, ⟨[0, 18446744073709551615, 7], rfl⟩⟩ ∧
      (launch.embed fits).locate (embedPoint fits last) = .ok ⟨⟨[0, 0, 1], rfl⟩, ⟨[0, 0, 1], rfl⟩⟩ := by
  intro fits launch before last
  obtain ⟨_, _, _, items, _, located⟩ := embed_simulates fits launch
  exact ⟨items, by decide, by decide, (located before).trans (by decide), (located last).trans (by decide)⟩

end Launch

end LaunchGeometry
