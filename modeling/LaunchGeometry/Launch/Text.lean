import LaunchGeometry.Coords.Text
import LaunchGeometry.Launch.Basic

/-! The written form of launches. -/

set_option autoImplicit false

namespace LaunchGeometry

variable {D : Nat}

def Launch.recordText (launch : Launch D) : String :=
  Text.record "NdRange" [("global", launch.globalRange.recordText), ("local", launch.localRange.recordText),
    ("offset", launch.offset.recordText)]

end LaunchGeometry
