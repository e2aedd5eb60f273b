import LaunchGeometry.Launch.Basic

/-! The work items of a launch, one after another.

Items come in row-major order of their position in the global range, and each
is shifted by the offset. A cursor knows the position of the next item.
-/

set_option autoImplicit false

namespace LaunchGeometry

open Coords

variable {D : Nat}

namespace Launch

theorem nonzero_of_lt_size {launch : Launch D} {position : Word} (inside : position < launch.size) :
    launch.globalRange.Nonzero := by
  intro dim zero
  have empty := volume_eq_zero_iff.mpr ⟨dim, zero⟩
  have less := UInt64.lt_iff_toNat_lt.mp inside
  rw [toNat_size, empty] at less
  exact Nat.not_lt_zero _ less

def idAt (launch : Launch D) (position : Word) (inside : position < launch.size) : Point D :=
  certain (launch.globalRange.delinearize position) (delinearize_eq_ok (nonzero_of_lt_size inside) position)
    + launch.offset

end Launch

/-- The items from `position` on are still to come. -/
structure ItemCursor (D : Nat) where
  launch : Launch D
  position : Word
  bounded : position ≤ launch.size

namespace ItemCursor

def start (launch : Launch D) : ItemCursor D := ⟨launch, 0, UInt64.zero_le⟩

def remaining (cursor : ItemCursor D) : Word := cursor.launch.size - cursor.position

/-- A lower and an upper bound on the number of items still to come. Both are the number itself. -/
def sizeHint (cursor : ItemCursor D) : Word × Option Word := (cursor.remaining, some cursor.remaining)

theorem succ_le_of_lt {position size : Word} (inside : position < size) : position + 1 ≤ size := by
  have bound := size.toNat_lt
  rw [UInt64.lt_iff_toNat_lt] at inside
  rw [UInt64.le_iff_toNat_le, UInt64.toNat_add, UInt64.toNat_one]
  omega

/-- The next item and the cursor behind it. At the end the cursor stays. -/
def next (cursor : ItemCursor D) : Option (Point D) × ItemCursor D :=
  if inside : cursor.position < cursor.launch.size then
    (some (cursor.launch.idAt cursor.position inside),
      { cursor with position := cursor.position + 1, bounded := succ_le_of_lt inside })
  else (none, cursor)

/-- Skip a number of items and take the next one. Too few items leave the cursor at the end. -/
def nth : Nat → ItemCursor D → Option (Point D) × ItemCursor D
  | 0, cursor => cursor.next
  | skipped + 1, cursor =>
    match cursor.next with
    | (some _, rest) => nth skipped rest
    | (none, rest) => (none, rest)

def take : Nat → ItemCursor D → List (Point D) × ItemCursor D
  | 0, cursor => ([], cursor)
  | count + 1, cursor =>
    match cursor.next with
    | (some id, rest) =>
      let (ids, rest) := take count rest
      (id :: ids, rest)
    | (none, rest) => ([], rest)

end ItemCursor

def Launch.ids (launch : Launch D) : List (Point D) := ((ItemCursor.start launch).take launch.size.toNat).1

end LaunchGeometry
