import LaunchGeometry.Dispatch
import LaunchGeometry.Rounding
import LaunchGeometry.Traced

/-! Device limits, and the distribution of a number of work groups under them.

Groups fill x up to the limit of one dimension, then y, then z. The dispatched
box may hold more groups than were asked for.
-/

set_option autoImplicit false

namespace LaunchGeometry

/-- What a device allows. Without other knowledge these are the least that every device allows. -/
structure Limits where
  maxGroupSize : Word := 256
  maxGroupsPerDim : Word := 65535
  deriving DecidableEq, Repr

namespace Limits

/-- The largest number of groups that a dispatch can have along one dimension under the limits. -/
def dispatchLimit (limits : Limits) : Word := min limits.maxGroupsPerDim Dispatch.maxCount

def distribute (limits : Limits) (total : Word) : Traced Refusal Dispatch :=
  if total = 0 then .ok ⟨0, 0, 0⟩
  else
    let max := limits.dispatchLimit
    if max = 0 then .fail (.tooManyGroups 0 total max)
    else
      let x := min total max
      match total.ceilDiv? x with
      | none => .fail (.tooManyGroups 1 total max)
      | some rows =>
        let y := min rows max
        -- x and y are below 2 ^ 32, so that their product is exact.
        match total.ceilDiv? (x * y) with
        | none => .fail (.tooManyGroups 2 total max)
        | some z =>
          if max < z then .failWith (.undistributable total max) (.tooManyGroups 2 z max)
          else .ofExcept do
            return ⟨← Dispatch.component 0 x, ← Dispatch.component 1 y, ← Dispatch.component 2 z⟩

def recordText (limits : Limits) : String :=
  Text.record "LaunchLimits" [("max_work_group_size", toString limits.maxGroupSize),
    ("max_groups_per_dim", toString limits.maxGroupsPerDim)]

end Limits

end LaunchGeometry
