import LaunchGeometry.Coords.Arithmetic

/-! Division with remainder component by component, and operations in place.

Only a quotient and a remainder fault, each by its own fault, and exactly where some component of the divisor
is zero, in whatever dimension it stands. An operation in place replaces its left operand by a complete
result, so that a fault leaves the components before it as they were, too. Without a zero the quotient
and the remainder make up the dividend, and neither their product nor their sum wraps.
-/

set_option autoImplicit false

namespace LaunchGeometry

def Operator.fault? : Operator → Option ZeroDivisor
  | .add | .sub | .mul => none
  | .div => some .quotient
  | .rem => some .remainder

theorem Operator.apply_eq_error_iff {operator : Operator} {a b : Word} {fault : ZeroDivisor} :
    operator.apply a b = .error fault ↔ operator.fault? = some fault ∧ b = 0 := by
  cases operator with
  | add | sub | mul => simp [apply, fault?]
  | div | rem => by_cases zero : b = 0 <;> simp [apply, fault?, zero]

namespace Coords

variable {D : Nat} {operator : Operator} {a b result : Coords D} {fault : ZeroDivisor}

theorem combine_eq_error_iff :
    combine operator a b = .error fault ↔ operator.fault? = some fault ∧ ∃ dim, b dim = 0 := by
  rw [combine, zipWithM, ofFnM_eq_error_iff]
  constructor
  · intro faulted
    obtain ⟨dim, failed, _⟩ := faulted
    obtain ⟨named, zero⟩ := Operator.apply_eq_error_iff.mp failed
    exact ⟨named, dim, zero⟩
  · intro divisor
    obtain ⟨named, zero⟩ := divisor
    -- The run stops at the first zero component, and every component before it has been computed.
    cases searched : b.zeroDim? with
    | none =>
      obtain ⟨dim, zero⟩ := zero
      exact absurd zero (zeroDim?_eq_none_iff.mp searched dim)
    | some dim =>
      obtain ⟨zero, before⟩ := zeroDim?_eq_some_iff.mp searched
      refine ⟨dim, Operator.apply_eq_error_iff.mpr ⟨named, zero⟩, fun earlier less => ?_⟩
      cases computed : operator.apply (a earlier) (b earlier) with
      | ok component => exact ⟨component, rfl⟩
      | error other => exact absurd (Operator.apply_eq_error_iff.mp computed).2 (before earlier less)

theorem combine_of_apply {f : Word → Word → Word} (total : ∀ x y, operator.apply x y = .ok (f x y))
    (a b : Coords D) : combine operator a b = .ok (zipWith f a b) :=
  combine_eq_ok_iff.mpr fun dim => by rw [total, zipWith_apply]

theorem assign_of_error (faulted : combine operator a b = .error fault) :
    assign operator a b = (.error fault, a) := by
  rw [assign, faulted]

theorem assign_of_ok (computed : combine operator a b = .ok result) :
    assign operator a b = (.ok (), result) := by
  rw [assign, computed]

theorem div_eq_error (zero : ∃ dim, b dim = 0) : a.div b = .error .quotient :=
  combine_eq_error_iff.mpr ⟨rfl, zero⟩

theorem rem_eq_error (zero : ∃ dim, b dim = 0) : a.rem b = .error .remainder :=
  combine_eq_error_iff.mpr ⟨rfl, zero⟩

section

variable (a b : Coords D) (nonzero : b.Nonzero)

theorem toNat_quotient_mul_add_remainder (dim : Fin D) :
    (a.quotient b nonzero dim).toNat * (b dim).toNat + (a.remainder b nonzero dim).toNat = (a dim).toNat := by
  rw [quotient_apply, remainder_apply, UInt64.toNat_div, UInt64.toNat_mod, Nat.div_add_mod']

theorem quotient_mul_add_remainder : a.quotient b nonzero * b + a.remainder b nonzero = a := by
  refine Coords.ext fun dim => ?_
  rw [← UInt64.toNat_inj, add_apply, mul_apply, UInt64.toNat_add, UInt64.toNat_mul, Nat.mod_add_mod,
    toNat_quotient_mul_add_remainder, Nat.mod_eq_of_lt (Word.toNat_lt (a dim))]

theorem remainder_lt (dim : Fin D) : a.remainder b nonzero dim < b dim := by
  rw [remainder_apply]
  exact UInt64.mod_lt _ (UInt64.pos_iff_ne_zero.mpr (nonzero dim))

theorem mul_quotient (exact : ∀ dim, (a dim).toNat * (b dim).toNat < Word.count) :
    (a * b).quotient b nonzero = a := by
  refine Coords.ext fun dim => ?_
  rw [← UInt64.toNat_inj, quotient_apply, mul_apply, UInt64.toNat_div, UInt64.toNat_mul,
    Nat.mod_eq_of_lt (exact dim), Nat.mul_div_cancel _ (Word.toNat_pos (nonzero dim))]

end

/-- A zero component of the divisor is a fault of the quotient and of the remainder, which leave the left operand
as it was in place. Without one both exist and make up the dividend without a wrap, the remainder is below the
divisor, and dividing takes back a product that has not wrapped. In place every operation leaves the
result of the plain one. -/
theorem division_splits_or_faults (a b : Coords D) :
    ((∃ dim, b dim = 0) →
      a.div b = .error .quotient ∧ a.rem b = .error .remainder ∧
        assign .div a b = (.error .quotient, a) ∧ assign .rem a b = (.error .remainder, a)) ∧
    ((∀ dim, b dim ≠ 0) → ∃ quotient remainder,
      a.div b = .ok quotient ∧ a.rem b = .ok remainder ∧ quotient * b + remainder = a ∧
        (∀ dim, (quotient dim).toNat * (b dim).toNat + (remainder dim).toNat = (a dim).toNat) ∧
        (∀ dim, remainder dim < b dim) ∧
        ((∀ dim, (a dim).toNat * (b dim).toNat < Word.count) → (a * b).div b = .ok a) ∧
        assign .div a b = (.ok (), quotient) ∧ assign .rem a b = (.ok (), remainder)) ∧
    assign .add a b = (.ok (), a + b) ∧ assign .sub a b = (.ok (), a - b) ∧
    assign .mul a b = (.ok (), a * b) := by
  refine ⟨fun zero => ?_, fun nonzero => ?_, assign_of_ok (combine_of_apply (fun _ _ => rfl) a b),
    assign_of_ok (combine_of_apply (fun _ _ => rfl) a b), assign_of_ok (combine_of_apply (fun _ _ => rfl) a b)⟩
  · have quotient := div_eq_error (a := a) zero
    have remainder := rem_eq_error (a := a) zero
    exact ⟨quotient, remainder, assign_of_error quotient, assign_of_error remainder⟩
  · have quotient := div_eq_quotient a b nonzero
    have remainder := rem_eq_remainder a b nonzero
    refine ⟨_, _, quotient, remainder, quotient_mul_add_remainder a b nonzero,
      toNat_quotient_mul_add_remainder a b nonzero, remainder_lt a b nonzero, fun exact => ?_,
      assign_of_ok quotient, assign_of_ok remainder⟩
    rw [div_eq_quotient (a * b) b nonzero, mul_quotient a b nonzero exact]

theorem division_splits_or_faults_second :
    let held : Coords 2 := ⟨[18446744073709551615, 9], rfl⟩
    let zeroed : Coords 2 := ⟨[2, 0], rfl⟩
    let divisor : Coords 2 := ⟨[1, 4], rfl⟩
    (∃ dim, zeroed dim = 0) ∧ held.rem zeroed = .error .remainder ∧
      assign .div held zeroed = (.error .quotient, held) ∧
      (∀ dim, divisor dim ≠ 0) ∧ (∀ dim, (held dim).toNat * (divisor dim).toNat < Word.count) ∧
      (held * divisor).div divisor = .ok held ∧
      ∃ quotient remainder, held.div divisor = .ok quotient ∧ held.rem divisor = .ok remainder ∧
        quotient * divisor + remainder = held := by
  intro held zeroed divisor
  have zero : ∃ dim, zeroed dim = 0 := ⟨1, rfl⟩
  have nonzero : ∀ dim, divisor dim ≠ 0 := by decide
  have exact : ∀ dim, (held dim).toNat * (divisor dim).toNat < Word.count := by decide
  obtain ⟨_, remainderFault, inPlace, _⟩ := (division_splits_or_faults held zeroed).1 zero
  obtain ⟨quotient, remainder, divided, left, whole, _, _, back, _⟩ :=
    (division_splits_or_faults held divisor).2.1 nonzero
  exact ⟨zero, remainderFault, inPlace, nonzero, exact, back exact, quotient, remainder, divided, left, whole⟩

end Coords

end LaunchGeometry
