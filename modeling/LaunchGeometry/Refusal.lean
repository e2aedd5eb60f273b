import LaunchGeometry.Text
import LaunchGeometry.Word

/-! Why a launch, a dispatch or an allocation is refused. -/

set_option autoImplicit false

namespace LaunchGeometry

inductive Refusal where
  | zeroLocalSize (dim : Nat)
  | notDivisible (dim : Nat) (globalSize localSize : Word)
  | rangeOverflow (dim : Nat) (globalSize localSize : Word)
  | volumeOverflow
  | groupTooLarge (size max : Word)
  | tooManyGroups (dim : Nat) (groups max : Word)
  | allocationOverflow (bytes : Word)
  | zeroAlignment
  deriving DecidableEq, Repr

namespace Refusal

def message : Refusal → String
  | .zeroLocalSize dim => s!"local range is zero in dimension {dim}"
  | .notDivisible dim globalSize localSize =>
    s!"global range ({globalSize}) is not a multiple of the local range ({localSize}) in dimension {dim}"
  | .rangeOverflow dim globalSize localSize =>
    s!"rounding the global range ({globalSize}) up to a multiple of {localSize} overflows in dimension {dim}"
  | .volumeOverflow => "the number of work items in the global range overflows a usize"
  | .groupTooLarge size max => s!"work group size {size} exceeds the limit of {max}"
  | .tooManyGroups dim groups max => s!"{groups} work groups in dimension {dim} exceeds the limit of {max}"
  | .allocationOverflow bytes => s!"allocation of {bytes} bytes overflows when rounded up"
  | .zeroAlignment => "alignment must be greater than zero"

def name : Refusal → String
  | .zeroLocalSize .. => "ZeroLocalSize"
  | .notDivisible .. => "NotDivisible"
  | .rangeOverflow .. => "RangeOverflow"
  | .volumeOverflow => "VolumeOverflow"
  | .groupTooLarge .. => "WorkGroupTooLarge"
  | .tooManyGroups .. => "TooManyGroups"
  | .allocationOverflow .. => "AllocationOverflow"
  | .zeroAlignment => "ZeroAlignment"

def fields : Refusal → List (String × Nat)
  | .zeroLocalSize dim => [("dim", dim)]
  | .notDivisible dim globalSize localSize =>
    [("dim", dim), ("global", globalSize.toNat), ("local", localSize.toNat)]
  | .rangeOverflow dim globalSize localSize =>
    [("dim", dim), ("global", globalSize.toNat), ("local", localSize.toNat)]
  | .volumeOverflow => []
  | .groupTooLarge size max => [("size", size.toNat), ("max", max.toNat)]
  | .tooManyGroups dim groups max => [("dim", dim), ("groups", groups.toNat), ("max", max.toNat)]
  | .allocationOverflow bytes => [("bytes", bytes.toNat)]
  | .zeroAlignment => []

def recordText (refusal : Refusal) : String :=
  Text.record refusal.name (refusal.fields.map fun field => (field.1, toString field.2))

end Refusal

end LaunchGeometry
