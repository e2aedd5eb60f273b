import LaunchGeometry.Coords.Basic
import LaunchGeometry.Text

/-! The written forms of vectors and of shape errors. -/

set_option autoImplicit false

namespace LaunchGeometry

variable {D : Nat}

def Coords.decimals (coords : Coords D) : List String :=
  coords.toList.map fun component => toString component.toNat

/-- Components in parentheses, as messages and event fields show them. -/
def Coords.display (coords : Coords D) : String := Text.tuple coords.decimals

def Coords.recordText (coords : Coords D) : String :=
  Text.record "StaticArray" [("data", Text.bracketed coords.decimals)]

def ShapeError.message : ShapeError → String
  | .dimensionMismatch expected actual => s!"expected {expected} components but found {actual}"
  | .indexOutOfBounds index dim => s!"index {index} out of range for dimension {dim}"

def ShapeError.name : ShapeError → String
  | .dimensionMismatch .. => "DimensionMismatch"
  | .indexOutOfBounds .. => "IndexOutOfBounds"

def ShapeError.fields : ShapeError → List (String × Nat)
  | .dimensionMismatch expected actual => [("expected", expected), ("actual", actual)]
  | .indexOutOfBounds index dim => [("index", index), ("dim", dim)]

def ShapeError.recordText (error : ShapeError) : String :=
  Text.record error.name (error.fields.map fun field => (field.1, toString field.2))

end LaunchGeometry
