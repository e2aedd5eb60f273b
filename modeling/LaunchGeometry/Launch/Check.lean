import LaunchGeometry.Launch.Basic
import LaunchGeometry.Limits

/-! Launches under device limits, and the dispatch that starts them.

A dispatch counts groups along x, y and z. x is the last dimension of the
canonical form, the one that varies fastest, and z is the first.
-/

set_option autoImplicit false

namespace LaunchGeometry

open Coords

variable {D : Nat}

/-- The groups of a canonical launch as dispatch components. Refusals name the dispatch dimension. -/
def Dispatch.ofGroups (groups : Extent 3) : Except Refusal Dispatch := do
  let x ← component 0 (groups 2)
  let y ← component 1 (groups 1)
  let z ← component 2 (groups 0)
  return ⟨x, y, z⟩

namespace Launch

/-- The group size is checked first, then the number of groups along each dimension. -/
def check (launch : Launch D) (limits : Limits) : Traced Refusal Unit :=
  if limits.maxGroupSize < launch.groupSize then
    .failWith (.groupTooLarge launch.groupSize limits.maxGroupSize)
      (.groupTooLarge launch.groupSize limits.maxGroupSize)
  else
    let groups := launch.groupCounts
    match firstDim? fun dim => limits.maxGroupsPerDim < groups dim with
    | some dim =>
      .failWith (.tooManyGroups dim (groups dim) limits.maxGroupsPerDim)
        (.tooManyGroups dim (groups dim) limits.maxGroupsPerDim)
    | none => .ok ()

def dispatchComponents (fits : D ≤ 3) (launch : Launch D) : Except Refusal Dispatch :=
  Dispatch.ofGroups (launch.embed fits).groupCounts

def dispatch (fits : D ≤ 3) (launch : Launch D) (limits : Limits) : Traced Refusal Dispatch := do
  launch.check limits
  let counts ← .ofExcept (launch.dispatchComponents fits)
  .okWith (.dispatched launch.globalRange launch.localRange counts) counts

theorem dispatch_outcome (fits : D ≤ 3) {launch : Launch D} {limits : Limits} :
    (launch.dispatch fits limits).outcome =
      (launch.check limits).outcome >>= fun _ => launch.dispatchComponents fits := by
  unfold dispatch
  simp only [Traced.outcome_bind]
  cases launch.dispatchComponents fits <;> rfl

end Launch

end LaunchGeometry
