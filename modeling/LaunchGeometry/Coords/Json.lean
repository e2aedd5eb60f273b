import LaunchGeometry.Coords.Text
import LaunchGeometry.Json

/-! Vectors as sequences of words in a format.

The whole sequence is read before its length is considered.
-/

set_option autoImplicit false

namespace LaunchGeometry

namespace Coords

variable {D : Nat} {Fault : Type}

def serialize (format : WordFormat Fault) (coords : Coords D) : Json := format.writeWords coords.toList

def deserialize (format : WordFormat Fault) (D : Nat) (json : Json) : Except Fault (Coords D) := do
  let words ← format.readWords json
  (ofList? D words).mapError fun _ => format.invalidLength words.length "one value per dimension"

def ofJson (D : Nat) (json : Json) : Except ReadError (Coords D) := deserialize .plain D json

def jsonText (coords : Coords D) : String := "[" ++ Text.joined "," coords.decimals ++ "]"

end Coords

end LaunchGeometry
