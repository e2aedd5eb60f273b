import LaunchGeometry.Coords.Text
import LaunchGeometry.Dispatch

/-! What the library reports while it works.

Each event is named for what happened and carries the values involved. Its
severity, wording and fields follow from it.
-/

set_option autoImplicit false

namespace LaunchGeometry

inductive Severity where
  | trace
  | debug
  | warn
  deriving DecidableEq, Repr

def Severity.label : Severity → String
  | .trace => "TRACE"
  | .debug => "DEBUG"
  | .warn => "WARN"

inductive Event where
  | volumeOverflow {D : Nat} (globalRange : Extent D)
  | padded {D : Nat} (globalRange rounded localRange : Extent D)
  | groupTooLarge (size max : Word)
  | tooManyGroups (dim : Nat) (groups max : Word)
  | dispatched {D : Nat} (globalRange localRange : Extent D) (dispatch : Dispatch)
  | undistributable (total max : Word)
  | aligned (bytes alignment rounded : Word)
  deriving DecidableEq

inductive Field where
  | number (value : Nat)
  | text (value : String)
  deriving DecidableEq, Repr

namespace Event

def severity : Event → Severity
  | .volumeOverflow .. => .warn
  | .padded .. => .debug
  | .groupTooLarge .. => .warn
  | .tooManyGroups .. => .warn
  | .dispatched .. => .trace
  | .undistributable .. => .warn
  | .aligned .. => .trace

def message : Event → String
  | .volumeOverflow .. => "global range has more work items than fit in a usize"
  | .padded .. => "padded global range to a multiple of the local range"
  | .groupTooLarge .. => "work group is larger than the device allows"
  | .tooManyGroups .. => "too many work groups"
  | .dispatched .. => "computed dispatch size"
  | .undistributable .. => "work group count does not fit in three dispatch dimensions"
  | .aligned .. => "aligned allocation size"

def fields : Event → List (String × Field)
  | .volumeOverflow globalRange => [("global", .text globalRange.display)]
  | .padded globalRange rounded localRange =>
    [("global", .text globalRange.display), ("padded", .text rounded.display),
      ("local", .text localRange.display)]
  | .groupTooLarge size max => [("size", .number size.toNat), ("max", .number max.toNat)]
  | .tooManyGroups dim groups max =>
    [("dim", .number dim), ("groups", .number groups.toNat), ("max", .number max.toNat)]
  | .dispatched globalRange localRange dispatch =>
    [("global", .text globalRange.display), ("local", .text localRange.display),
      ("dispatch", .text dispatch.display)]
  | .undistributable total max => [("total_groups", .number total.toNat), ("max", .number max.toNat)]
  | .aligned bytes alignment rounded =>
    [("bytes", .number bytes.toNat), ("alignment", .number alignment.toNat),
      ("aligned", .number rounded.toNat)]

end Event

end LaunchGeometry
