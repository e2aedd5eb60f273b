import LaunchGeometry.Proofs.Ceiling

/-! Wrapping forms of rounding beside the refusing ones.

One form adds the divisor and takes one off, the other adds the divisor less one. Both come to the same
word, also where only the first passes zero on the way. A sum that is a word makes both quotients exact.
What a wrapped sum leaves is below the divisor, so that its quotient is zero and so is the multiple. The
exact quotient of a positive number is positive, and a zero in its place shows that the sum has wrapped.
-/

set_option autoImplicit false

namespace LaunchGeometry.Word

variable {a b quotient : Word}

theorem toNat_add_sub_one (nonzero : b ≠ 0) :
    (a + b - 1).toNat = (a.toNat + (b.toNat - 1)) % count := by
  have same : a + b - 1 = a + (b - 1) := by
    rw [UInt64.sub_eq_add_neg, UInt64.sub_eq_add_neg, UInt64.add_assoc]
  rw [same, UInt64.toNat_add, toNat_pred nonzero]

theorem ceilDiv_eq_ok_iff (nonzero : b ≠ 0) :
    ceilDiv a b = .ok quotient ↔ (a.toNat + (b.toNat - 1)) % count / b.toNat = quotient.toNat := by
  rw [ceilDiv, div_of_ne_zero nonzero, Except.ok.injEq, ← UInt64.toNat_inj, UInt64.toNat_div,
    toNat_add_sub_one nonzero]

theorem ceilDiv_of_ceilDiv? (divided : ceilDiv? a b = some quotient) : ceilDiv a b = .ok quotient := by
  obtain ⟨positive, room, exact⟩ := ceilDiv?_eq_some_iff.mp divided
  have nonzero : b ≠ 0 := fun zero => by simp [zero] at positive
  rw [ceilDiv_eq_ok_iff nonzero, Nat.mod_eq_of_lt room, ← exact, Nat.ceilDiv_eq_add_pred_div,
    Nat.add_sub_assoc positive]

theorem ceilDiv_of_refused (nonzero : b ≠ 0) (refused : ceilDiv? a b = none) : ceilDiv a b = .ok 0 := by
  have large := (ceilDiv?_eq_none_iff.mp refused).resolve_left nonzero
  have first := toNat_lt a
  have second := toNat_lt b
  -- What comes off the sum is more than the number, so that less than the divisor is left.
  have wrapped : (a.toNat + (b.toNat - 1)) % count = a.toNat + (b.toNat - 1) - count := by
    rw [Nat.mod_eq_sub_mod (by omega), Nat.mod_eq_of_lt (by omega)]
  rw [ceilDiv_eq_ok_iff nonzero, wrapped]
  exact Nat.div_eq_of_lt (by omega)

theorem ne_zero_of_refused (nonzero : b ≠ 0) (refused : ceilDiv? a b = none) : a ≠ 0 := by
  rintro rfl
  have large := (ceilDiv?_eq_none_iff.mp refused).resolve_left nonzero
  rw [UInt64.toNat_zero, Nat.zero_add] at large
  exact Nat.lt_asymm large (toNat_lt b)

theorem roundUp_of_ceilDiv (divided : ceilDiv a b = .ok quotient) :
    roundUp a b = .ok (quotient * b) := by
  rw [roundUp, divided]
  rfl

theorem leastMultiple_of_ceilDiv? (divided : ceilDiv? a b = some quotient) :
    LeastMultiple b.toNat a.toNat (quotient * b).toNat :=
  (roundUp?_eq_some_iff_leastMultiple.mp (roundUp?_of_ceilDiv? divided)).2.2

theorem ceilDiv_eq_ok_zero_iff (nonzero : b ≠ 0) :
    ceilDiv a b = .ok 0 ↔ a = 0 ∨ ceilDiv? a b = none := by
  have positive := toNat_pos nonzero
  constructor
  · intro zero
    cases divided : ceilDiv? a b with
    | none => exact .inr rfl
    | some quotient =>
      left
      by_contra asked
      rw [ceilDiv_of_ceilDiv? divided, Except.ok.injEq] at zero
      have exact := (ceilDiv?_eq_some_iff.mp divided).2.2
      have least := ceilDiv_pos (toNat_pos asked) positive
      rw [exact, zero] at least
      contradiction
  · intro either
    rcases either with rfl | refused
    · have below : b.toNat - 1 < count := Nat.lt_of_le_of_lt (Nat.sub_le _ _) (toNat_lt b)
      rw [ceilDiv_eq_ok_iff nonzero, UInt64.toNat_zero, Nat.zero_add, Nat.mod_eq_of_lt below]
      exact Nat.div_eq_of_lt (Nat.sub_one_lt_of_lt positive)
    · exact ceilDiv_of_refused nonzero refused

/-- Where the refusing quotient answers, it is the exact quotient rounded up, the wrapping one is the same, and
both forms have the least multiple, whose product does not wrap. Where it refuses, the number is positive, the
multiple is refused too, and the wrapping forms are zero. No other positive number has a quotient of zero. -/
theorem roundings_agree (a : Word) {b : Word} (nonzero : b ≠ 0) :
    (∀ quotient, ceilDiv? a b = some quotient →
      quotient.toNat = a.toNat ⌈/⌉ b.toNat ∧ ceilDiv a b = .ok quotient ∧
        (quotient * b).toNat = quotient.toNat * b.toNat ∧
        roundUp? a b = some (quotient * b) ∧ roundUp a b = .ok (quotient * b) ∧
        LeastMultiple b.toNat a.toNat (quotient * b).toNat) ∧
    (ceilDiv? a b = none →
      a ≠ 0 ∧ roundUp? a b = none ∧ ceilDiv a b = .ok 0 ∧ roundUp a b = .ok 0) ∧
    (a ≠ 0 → ceilDiv a b = .ok 0 → ceilDiv? a b = none) := by
  constructor
  · intro quotient divided
    have exact := (ceilDiv?_eq_some_iff.mp divided).2.2
    have wrapping := ceilDiv_of_ceilDiv? divided
    exact ⟨exact.symm, wrapping, toNat_mul_of_ceilDiv? divided, roundUp?_of_ceilDiv? divided,
      roundUp_of_ceilDiv wrapping, leastMultiple_of_ceilDiv? divided⟩
  constructor
  · intro refused
    have wrapping := ceilDiv_of_refused nonzero refused
    have multiple := roundUp_of_ceilDiv wrapping
    rw [UInt64.zero_mul] at multiple
    have unrounded := roundUp?_eq_none_iff.mpr (ceilDiv?_eq_none_iff.mp refused)
    exact ⟨ne_zero_of_refused nonzero refused, unrounded, wrapping, multiple⟩
  · intro asked zero
    exact ((ceilDiv_eq_ok_zero_iff nonzero).mp zero).resolve_left asked

theorem roundings_agree_at_top :
    let top : Word := 18446744073709551615
    (1 : Word) ≠ 0 ∧ top + 1 = 0 ∧ ceilDiv? top 1 = some top ∧ ceilDiv top 1 = .ok top ∧
      LeastMultiple 1 top.toNat (top * 1).toNat ∧
      (2 : Word) ≠ 0 ∧ ceilDiv? top 2 = none ∧ roundUp? top 2 = none ∧ roundUp top 2 = .ok 0 ∧
      top ≠ 0 ∧ ceilDiv top 2 = .ok 0 := by
  intro top
  have answered : ceilDiv? top 1 = some top := by decide
  have refused : ceilDiv? top 2 = none := by decide
  obtain ⟨_, wrapping, _, _, _, least⟩ := (roundings_agree top (b := 1) (by decide)).1 top answered
  obtain ⟨positive, unrounded, zero, multiple⟩ := (roundings_agree top (b := 2) (by decide)).2.1 refused
  exact ⟨by decide, by decide, answered, wrapping, least, by decide, refused, unrounded, multiple, positive, zero⟩

end LaunchGeometry.Word
