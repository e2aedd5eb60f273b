import LaunchGeometry.PowerOfTwo
import LaunchGeometry.Refusal
import LaunchGeometry.Rounding
import LaunchGeometry.Traced

/-! Sizes of the buffers behind a launch. -/

set_option autoImplicit false

namespace LaunchGeometry.Allocation

/-- The number of bytes rounded up to a multiple of the alignment. A change of size is reported. -/
def aligned (bytes alignment : Word) : Traced Refusal Word :=
  if alignment = 0 then .fail .zeroAlignment
  else match bytes.roundUp? alignment with
    | none => .fail (.allocationOverflow bytes)
    | some rounded =>
      if rounded = bytes then .ok rounded else .okWith (.aligned bytes alignment rounded) rounded

/-- The power of two bucket that holds the bytes. No bytes need no bucket. -/
def bucket (bytes : Word) : Except Refusal Word :=
  let power := bytes.powerAtLeast
  if power = 0 ∧ bytes ≠ 0 then .error (.allocationOverflow bytes) else .ok power

end LaunchGeometry.Allocation
