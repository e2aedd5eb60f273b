import LaunchGeometry.Coords.Basic

/-! Values whose kind is known only when they are used.

A size and a 64-bit word hold the same numbers and are still two kinds, as are
vectors of different dimensions.
-/

set_option autoImplicit false

namespace LaunchGeometry

inductive Kind where
  | size
  | word64
  | word32
  | coords (dim : Nat)
  deriving DecidableEq, Repr

abbrev Kind.Carrier : Kind → Type
  | .size => Word
  | .word64 => UInt64
  | .word32 => UInt32
  | .coords dim => Coords dim

structure Erased where
  kind : Kind
  value : kind.Carrier

/-- A value met where another kind was promised. -/
inductive KindFault where
  | notCastable (wanted : Kind)
  | notExpected (wanted : Kind)
  deriving DecidableEq, Repr

def KindFault.message (label : Kind → String) : KindFault → String
  | .notCastable wanted => "cannot cast to " ++ label wanted
  | .notExpected wanted => "expected a value of type " ++ label wanted

namespace Erased

def is (wanted : Kind) (erased : Erased) : Bool := erased.kind = wanted

def expect (wanted : Kind) (erased : Erased) : Except KindFault Unit :=
  if erased.is wanted then .ok () else .error (.notExpected wanted)

def cast (wanted : Kind) (erased : Erased) : Except KindFault wanted.Carrier :=
  if same : erased.kind = wanted then .ok (same ▸ erased.value) else .error (.notCastable wanted)

def modify (wanted : Kind) (change : wanted.Carrier → wanted.Carrier) (erased : Erased) :
    Except KindFault Erased :=
  (erased.cast wanted).map fun value => ⟨wanted, change value⟩

@[simp] theorem cast_mk (kind : Kind) (value : kind.Carrier) : cast kind ⟨kind, value⟩ = .ok value := by
  simp [cast]

theorem cast_eq_error {wanted : Kind} {erased : Erased} (differs : erased.kind ≠ wanted) :
    erased.cast wanted = .error (.notCastable wanted) := by
  simp [cast, differs]

end Erased

end LaunchGeometry
