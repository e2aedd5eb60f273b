import LaunchGeometry.Coords.Text
import LaunchGeometry.Launch.Basic

/-! The place of a work item: its work group, and its position inside that group. -/

set_option autoImplicit false

namespace LaunchGeometry

open Coords

variable {D : Nat}

structure Slot (D : Nat) where
  group : Point D
  item : Point D
  deriving DecidableEq, Repr

/-- An id that lies before the first work item in some dimension. -/
structure BelowOffset (D : Nat) where
  id : Point D
  offset : Point D
  deriving DecidableEq, Repr

def BelowOffset.message (fault : BelowOffset D) : String :=
  s!"global id {fault.id.display} is below the launch offset {fault.offset.display}"

namespace Launch

/-- The group and the item of a global id. The id may lie beyond the last work item, but not before
the first. -/
def locate (launch : Launch D) (id : Point D) : Except (BelowOffset D) (Slot D) :=
  if ∀ dim, launch.offset dim ≤ id dim then
    let relative := id - launch.offset
    .ok {
      group := relative.quotient launch.localRange launch.nonzero_localRange
      item := relative.remainder launch.localRange launch.nonzero_localRange }
  else .error ⟨id, launch.offset⟩

end Launch

end LaunchGeometry
