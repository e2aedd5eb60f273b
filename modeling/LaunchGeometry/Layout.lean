import LaunchGeometry.Word

/-! How values lie in memory, and casts between values and their bytes.

A word takes eight bytes, the least significant first. Casts are given from
outside, and `ByteCasts.checked` are such casts.
-/

set_option autoImplicit false

namespace LaunchGeometry

/-- How many bytes a value takes, which they are, and the value that bytes stand for. -/
structure Layout (α : Type) where
  size : Nat
  bytes : α → List UInt8
  value : List UInt8 → α

/-- Casts between values and their bytes, in any layout. Bytes that are too few or too many for a value are a
fault. -/
structure ByteCasts (Fault : Type) where
  sizeMismatch : Fault
  view : {α : Type} → Layout α → α → List UInt8
  read : {α : Type} → Layout α → List UInt8 → Except Fault α

inductive CastError where
  | sizeMismatch
  deriving DecidableEq, Repr

def ByteCasts.checked : ByteCasts CastError where
  sizeMismatch := .sizeMismatch
  view layout value := layout.bytes value
  read layout bytes := if bytes.length = layout.size then .ok (layout.value bytes) else .error .sizeMismatch

namespace Word

/-- The `count` least significant base-256 digits of a number, in ascending order. -/
def littleEndian : Nat → Nat → List UInt8
  | 0, _ => []
  | count + 1, value => UInt8.ofNat value :: littleEndian count (value / 256)

def valueLittleEndian : List UInt8 → Nat
  | [] => 0
  | byte :: bytes => byte.toNat + 256 * valueLittleEndian bytes

def toBytes (word : Word) : List UInt8 := littleEndian 8 word.toNat

def ofBytes (bytes : List UInt8) : Word := UInt64.ofNat (valueLittleEndian bytes)

def layout : Layout Word where
  size := 8
  bytes := toBytes
  value := ofBytes

@[simp] theorem length_littleEndian (count value : Nat) : (littleEndian count value).length = count := by
  induction count generalizing value with
  | zero => rfl
  | succ count ih => simp [littleEndian, ih]

@[simp] theorem length_toBytes (word : Word) : word.toBytes.length = 8 := length_littleEndian ..

end Word

end LaunchGeometry
