import LaunchGeometry.Word

/-! Division that rounds up, and the multiples it leads to.

`ceilDiv` and `roundUp` wrap. `ceilDiv?` and `roundUp?` refuse a zero divisor and
any intermediate value that needs more than one word, so that what they answer is exact.
-/

set_option autoImplicit false

namespace LaunchGeometry.Word

/-- The quotient rounded up. The sum `a + b - 1` wraps. -/
def ceilDiv (a b : Word) : Except ZeroDivisor Word := div (a + b - 1) b

/-- The least multiple of `b` not below `a`, as far as `ceilDiv` is exact. -/
def roundUp (a b : Word) : Except ZeroDivisor Word := do
  return (← ceilDiv a b) * b

/-- The quotient rounded up, unless `b` is zero or `a + (b - 1)` leaves the word. -/
def ceilDiv? (a b : Word) : Option Word :=
  if b = 0 then none else (add? a (b - 1)).map (· / b)

/-- The least multiple of `b` not below `a`, unless `ceilDiv?` or the product is refused. -/
def roundUp? (a b : Word) : Option Word := do
  mul? (← ceilDiv? a b) b

@[simp] theorem ceilDiv?_zero (a : Word) : ceilDiv? a 0 = none := rfl

@[simp] theorem roundUp?_zero (a : Word) : roundUp? a 0 = none := rfl

theorem mod_eq_zero_of_roundUp? {a b multiple : Word} (rounded : roundUp? a b = some multiple) :
    multiple % b = 0 := by
  obtain ⟨quotient, -, exact⟩ := Option.bind_eq_some_iff.mp rounded
  rw [← UInt64.toNat_inj, UInt64.toNat_mod, ← mul?_eq_some_iff.mp exact]
  simp

end LaunchGeometry.Word
