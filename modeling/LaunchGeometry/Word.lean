/-! Machine words and the partial operations on them.

A component, a count and a size are each one 64-bit word. Addition, subtraction
and multiplication wrap. `add?` and `mul?` answer only an exact result, and
division by zero is a fault. Where a fault is ruled out beforehand, `certain`
takes the value.
-/

set_option autoImplicit false

namespace LaunchGeometry

abbrev Word := UInt64

abbrev Word.count : Nat := 18446744073709551616

theorem Word.toNat_lt (word : Word) : word.toNat < count := UInt64.toNat_lt word

inductive ZeroDivisor where
  | quotient
  | remainder
  deriving DecidableEq, Repr

def ZeroDivisor.message : ZeroDivisor → String
  | .quotient => "attempt to divide by zero"
  | .remainder => "attempt to calculate the remainder with a divisor of zero"

/-- The value of a computation that is known not to fail. -/
def certain {ε α : Type} : (outcome : Except ε α) → (∃ value, outcome = .ok value) → α
  | .ok value, _ => value
  | .error _, succeeds => False.elim (by obtain ⟨_, impossible⟩ := succeeds; cases impossible)

theorem certain_eq {ε α : Type} {outcome : Except ε α} {value : α}
    (succeeds : ∃ value, outcome = .ok value) (finished : outcome = .ok value) :
    certain outcome succeeds = value := by
  subst finished
  rfl

theorem eq_ok_certain {ε α : Type} (outcome : Except ε α) (succeeds : ∃ value, outcome = .ok value) :
    outcome = .ok (certain outcome succeeds) := by
  cases outcome with
  | ok value => rfl
  | error fault =>
    obtain ⟨_, impossible⟩ := succeeds
    cases impossible

namespace Word

theorem toNat_pos {word : Word} (nonzero : word ≠ 0) : 0 < word.toNat :=
  UInt64.lt_iff_toNat_lt.mp (UInt64.pos_iff_ne_zero.mpr nonzero)

theorem toNat_min (a b : Word) : (min a b).toNat = min a.toNat b.toNat := by
  change (if a ≤ b then a else b).toNat = _
  split
  next less => exact (Nat.min_eq_left (UInt64.le_iff_toNat_le.mp less)).symm
  next greater =>
    rw [UInt64.not_le, UInt64.lt_iff_toNat_lt] at greater
    exact (Nat.min_eq_right (Nat.le_of_lt greater)).symm

/-- A wrapping sum falls below its summands exactly where it is not their sum. -/
theorem le_add_iff {a b : Word} : b ≤ a + b ↔ a.toNat + b.toNat < count := by
  have first := Word.toNat_lt a
  have second := Word.toNat_lt b
  rw [UInt64.le_iff_toNat_le, UInt64.toNat_add]
  unfold count at *
  omega

theorem mod_eq_zero_iff_dvd {a b : Word} : a % b = 0 ↔ b.toNat ∣ a.toNat := by
  rw [← UInt64.toNat_inj, UInt64.toNat_mod]
  exact Nat.dvd_iff_mod_eq_zero.symm

def add? (a b : Word) : Option Word :=
  if a.toNat + b.toNat < count then some (a + b) else none

def mul? (a b : Word) : Option Word :=
  if a.toNat * b.toNat < count then some (a * b) else none

def div (a b : Word) : Except ZeroDivisor Word :=
  if b = 0 then .error .quotient else .ok (a / b)

def rem (a b : Word) : Except ZeroDivisor Word :=
  if b = 0 then .error .remainder else .ok (a % b)

theorem add?_eq_some_iff {a b sum : Word} :
    add? a b = some sum ↔ a.toNat + b.toNat = sum.toNat := by
  have bound := Word.toNat_lt sum
  rw [add?]
  split
  next exact =>
    rw [Option.some_inj, ← UInt64.toNat_inj, UInt64.toNat_add, Nat.mod_eq_of_lt exact]
  next large => simp; omega

theorem mul?_eq_some_iff {a b product : Word} :
    mul? a b = some product ↔ a.toNat * b.toNat = product.toNat := by
  have bound := Word.toNat_lt product
  rw [mul?]
  split
  next exact =>
    rw [Option.some_inj, ← UInt64.toNat_inj, UInt64.toNat_mul, Nat.mod_eq_of_lt exact]
  next large => simp; omega

theorem add?_eq_none_iff {a b : Word} : add? a b = none ↔ count ≤ a.toNat + b.toNat := by
  simp [add?]

theorem mul?_eq_none_iff {a b : Word} : mul? a b = none ↔ count ≤ a.toNat * b.toNat := by
  simp [mul?]

@[simp] theorem div_of_ne_zero {a b : Word} (nonzero : b ≠ 0) : div a b = .ok (a / b) := by
  simp [div, nonzero]

@[simp] theorem rem_of_ne_zero {a b : Word} (nonzero : b ≠ 0) : rem a b = .ok (a % b) := by
  simp [rem, nonzero]

@[simp] theorem div_zero (a : Word) : div a 0 = .error .quotient := rfl

@[simp] theorem rem_zero (a : Word) : rem a 0 = .error .remainder := rfl

end Word

end LaunchGeometry
