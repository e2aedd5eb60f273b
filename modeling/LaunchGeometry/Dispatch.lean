import LaunchGeometry.Refusal

/-! The work groups of a launch as a device takes them. -/

set_option autoImplicit false

namespace LaunchGeometry

/-- Numbers of work groups along the device's own dimensions. -/
structure Dispatch where
  x : UInt32
  y : UInt32
  z : UInt32
  deriving DecidableEq, Repr

namespace Dispatch

/-- The largest number of groups along one dimension of any device. -/
def maxCount : Word := 4294967295

/-- A number of groups as one component. Too large a number is refused under the given dimension. -/
def component (dim : Nat) (groups : Word) : Except Refusal UInt32 :=
  if groups ≤ maxCount then .ok groups.toUInt32 else .error (.tooManyGroups dim groups maxCount)

def toList (dispatch : Dispatch) : List Nat :=
  [dispatch.x.toNat, dispatch.y.toNat, dispatch.z.toNat]

def display (dispatch : Dispatch) : String := Text.bracketed (dispatch.toList.map toString)

end Dispatch

end LaunchGeometry
