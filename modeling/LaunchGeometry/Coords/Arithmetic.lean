import LaunchGeometry.Coords.Basic

/-! Arithmetic component by component.

Sums, differences and products wrap in each dimension and always exist. A
quotient or a remainder faults if any divisor component is zero, and has a value
where none is.
-/

set_option autoImplicit false

namespace LaunchGeometry

inductive Operator where
  | add
  | sub
  | mul
  | div
  | rem
  deriving DecidableEq, Repr

def Operator.apply : Operator → Word → Word → Except ZeroDivisor Word
  | .add, a, b => .ok (a + b)
  | .sub, a, b => .ok (a - b)
  | .mul, a, b => .ok (a * b)
  | .div, a, b => a.div b
  | .rem, a, b => a.rem b

namespace Coords

variable {D : Nat}

instance : Add (Coords D) := ⟨zipWith (· + ·)⟩

instance : Sub (Coords D) := ⟨zipWith (· - ·)⟩

instance : Mul (Coords D) := ⟨zipWith (· * ·)⟩

def combine (operator : Operator) (a b : Coords D) : Except ZeroDivisor (Coords D) :=
  zipWithM operator.apply a b

def div (a b : Coords D) : Except ZeroDivisor (Coords D) := combine .div a b

def rem (a b : Coords D) : Except ZeroDivisor (Coords D) := combine .rem a b

/-- Combine into the left operand. It is replaced as a whole, so that a fault leaves it as it was. -/
def assign (operator : Operator) (held right : Coords D) : Except ZeroDivisor Unit × Coords D :=
  match combine operator held right with
  | .ok result => (.ok (), result)
  | .error fault => (.error fault, held)

@[simp] theorem add_apply (a b : Coords D) (dim : Fin D) : (a + b) dim = a dim + b dim := zipWith_apply ..

@[simp] theorem sub_apply (a b : Coords D) (dim : Fin D) : (a - b) dim = a dim - b dim := zipWith_apply ..

@[simp] theorem mul_apply (a b : Coords D) (dim : Fin D) : (a * b) dim = a dim * b dim := zipWith_apply ..

protected theorem add_comm (a b : Coords D) : a + b = b + a := ext fun dim => by simp [UInt64.add_comm]

protected theorem add_sub_cancel (a b : Coords D) : a + b - b = a := ext fun dim => by simp

protected theorem sub_add_cancel (a b : Coords D) : a - b + b = a := ext fun dim => by simp

theorem combine_eq_ok_iff {operator : Operator} {a b result : Coords D} :
    combine operator a b = .ok result ↔ ∀ dim, operator.apply (a dim) (b dim) = .ok (result dim) :=
  ofFnM_eq_ok_iff

theorem div_eq_ok {a b : Coords D} (nonzero : b.Nonzero) : a.div b = .ok (zipWith (· / ·) a b) :=
  combine_eq_ok_iff.mpr fun dim => (Word.div_of_ne_zero (nonzero dim)).trans (by simp)

theorem rem_eq_ok {a b : Coords D} (nonzero : b.Nonzero) : a.rem b = .ok (zipWith (· % ·) a b) :=
  combine_eq_ok_iff.mpr fun dim => (Word.rem_of_ne_zero (nonzero dim)).trans (by simp)

def quotient (a b : Coords D) (nonzero : b.Nonzero) : Coords D :=
  certain (a.div b) ⟨_, div_eq_ok nonzero⟩

def remainder (a b : Coords D) (nonzero : b.Nonzero) : Coords D :=
  certain (a.rem b) ⟨_, rem_eq_ok nonzero⟩

theorem div_eq_quotient (a b : Coords D) (nonzero : b.Nonzero) : a.div b = .ok (quotient a b nonzero) :=
  eq_ok_certain ..

theorem rem_eq_remainder (a b : Coords D) (nonzero : b.Nonzero) : a.rem b = .ok (remainder a b nonzero) :=
  eq_ok_certain ..

@[simp] theorem quotient_apply (a b : Coords D) (nonzero : b.Nonzero) (dim : Fin D) :
    quotient a b nonzero dim = a dim / b dim := by
  rw [quotient, certain_eq _ (div_eq_ok nonzero), zipWith_apply]

@[simp] theorem remainder_apply (a b : Coords D) (nonzero : b.Nonzero) (dim : Fin D) :
    remainder a b nonzero dim = a dim % b dim := by
  rw [remainder, certain_eq _ (rem_eq_ok nonzero), zipWith_apply]

end Coords

end LaunchGeometry
