import LaunchGeometry.Coords.Basic
import LaunchGeometry.Layout

/-! Vectors in memory: the bytes of the components, one after the other. -/

set_option autoImplicit false

namespace LaunchGeometry

namespace Coords

variable {D : Nat}

/-- A vector lies in memory as its components do, without anything before, between or behind them. -/
def layout (D : Nat) : Layout (Coords D) where
  size := Word.layout.size * D
  bytes coords := coords.toList.flatMap Word.layout.bytes
  value bytes := ofFn fun dim =>
    Word.layout.value ((bytes.drop (Word.layout.size * dim.val)).take Word.layout.size)

def toBytes (coords : Coords D) : List UInt8 := ByteCasts.checked.view (layout D) coords

def ofBytes? (D : Nat) (bytes : List UInt8) : Option (Coords D) :=
  (ByteCasts.checked.read (layout D) bytes).toOption

end Coords

end LaunchGeometry
