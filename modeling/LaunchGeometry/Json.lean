import LaunchGeometry.Word

/-! JSON values as a reader sees them, and the formats that read words from them.

A number written as an integer keeps its exact value. Any other number keeps
only its spelling. Vectors are read from any format, of which `WordFormat.plain`
is one.
-/

set_option autoImplicit false

namespace LaunchGeometry

inductive Json where
  | null
  | bool (value : Bool)
  | integer (value : Int)
  | decimal (spelling : String)
  | string (value : String)
  | array (elements : List Json)
  | object (members : List (String × Json))

/-- How a word and a sequence of words are read and written. Any reader of sequences reports a wrong length by
`invalidLength`. -/
structure WordFormat (Fault : Type) where
  readWord : Json → Except Fault Word
  readWords : Json → Except Fault (List Word)
  invalidLength : (actual : Nat) → (expected : String) → Fault
  writeWords : List Word → Json

/-- Why a JSON value is not read. Only a wrong length has a wording of its own. -/
inductive ReadError where
  | invalidType
  | invalidValue
  | invalidLength (message : String)
  deriving DecidableEq, Repr

def ReadError.message? : ReadError → Option String
  | .invalidType => none
  | .invalidValue => none
  | .invalidLength message => some message

/-- A negative integer of the signed word has the right type and a wrong value. Integers beyond
both words have the wrong type. -/
def Json.toWord : Json → Except ReadError Word
  | .integer value =>
    if 0 ≤ value ∧ value < 18446744073709551616 then .ok (UInt64.ofNat value.toNat)
    else if -9223372036854775808 ≤ value ∧ value < 0 then .error .invalidValue
    else .error .invalidType
  | _ => .error .invalidType

def Json.toWords : Json → Except ReadError (List Word)
  | .array elements => elements.mapM toWord
  | _ => .error .invalidType

def WordFormat.plain : WordFormat ReadError where
  readWord := Json.toWord
  readWords := Json.toWords
  invalidLength actual expected := .invalidLength s!"invalid length {actual}, expected {expected}"
  writeWords words := .array (words.map fun word => .integer word.toNat)

end LaunchGeometry
