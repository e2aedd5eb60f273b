import LaunchGeometry.Rounding
import Mathlib.Algebra.Order.Floor.Div

/-! Rounded-up quotients and multiples of words in exact arithmetic.

A refusing quotient that answers is the exact quotient rounded up. It answers
for a positive divisor, unless the sum in front of its division leaves the word.
The rounded-up multiple is refused in the same cases, also where the multiple
itself is a word.
-/

set_option autoImplicit false

namespace LaunchGeometry.Word

theorem toNat_pred {b : Word} (nonzero : b ≠ 0) : (b - 1).toNat = b.toNat - 1 :=
  UInt64.toNat_sub_of_le b 1 (UInt64.le_iff_toNat_le.mpr (toNat_pos nonzero))

theorem ceilDiv?_eq_some_iff {a b quotient : Word} :
    ceilDiv? a b = some quotient ↔
      0 < b.toNat ∧ a.toNat + (b.toNat - 1) < count ∧ a.toNat ⌈/⌉ b.toNat = quotient.toNat := by
  unfold ceilDiv?
  split
  next zero =>
    subst zero
    simp
  next nonzero =>
    have positive := toNat_pos nonzero
    have pred := toNat_pred nonzero
    rw [Option.map_eq_some_iff, ← pred, Nat.ceilDiv_eq_add_pred_div]
    have sum : a.toNat + b.toNat - 1 = a.toNat + (b - 1).toNat := by
      rw [pred]
      exact Nat.add_sub_assoc positive _
    rw [sum]
    constructor
    · intro answered
      obtain ⟨exact, added, rfl⟩ := answered
      have same := add?_eq_some_iff.mp added
      exact ⟨positive, same ▸ toNat_lt exact, by rw [UInt64.toNat_div, same]⟩
    · intro bounded
      obtain ⟨_, fits, divided⟩ := bounded
      have exact : (a + (b - 1)).toNat = a.toNat + (b - 1).toNat := by
        rw [UInt64.toNat_add, Nat.mod_eq_of_lt fits]
      refine ⟨a + (b - 1), add?_eq_some_iff.mpr exact.symm, ?_⟩
      rw [← UInt64.toNat_inj, UInt64.toNat_div, exact, divided]

theorem ceilDiv?_eq_none_iff {a b : Word} :
    ceilDiv? a b = none ↔ b = 0 ∨ count < a.toNat + b.toNat := by
  unfold ceilDiv?
  split
  next zero => exact iff_of_true rfl (.inl zero)
  next nonzero =>
    have positive := toNat_pos nonzero
    rw [Option.map_eq_none_iff, add?_eq_none_iff, toNat_pred nonzero]
    simp only [nonzero, false_or]
    omega

theorem mul_ceilDiv_lt_add (number : Nat) {divisor : Nat} (positive : 0 < divisor) :
    divisor * (number ⌈/⌉ divisor) < number + divisor := by
  rw [Nat.ceilDiv_eq_add_pred_div]
  have back := Nat.mul_div_le (number + divisor - 1) divisor
  omega

theorem le_mul_ceilDiv (number : Nat) {divisor : Nat} (positive : 0 < divisor) :
    number ≤ divisor * (number ⌈/⌉ divisor) :=
  (ceilDiv_le_iff_le_mul positive).mp (Nat.le_refl _)

theorem ceilDiv_pos {number divisor : Nat} (asked : 0 < number) (positive : 0 < divisor) :
    0 < number ⌈/⌉ divisor := by
  refine Nat.pos_of_ne_zero fun zero => ?_
  have covered := le_mul_ceilDiv number positive
  rw [zero, Nat.mul_zero] at covered
  omega

theorem isLeast_ceilDiv (number : Nat) {divisor : Nat} (positive : 0 < divisor) :
    IsLeast {quotient | number ≤ divisor * quotient} (number ⌈/⌉ divisor) :=
  ⟨le_mul_ceilDiv number positive, fun _ covers => (ceilDiv_le_iff_le_mul positive).mpr covers⟩

theorem ceilDiv_le_one {number divisor : Nat} (positive : 0 < divisor) (held : number ≤ divisor) :
    number ⌈/⌉ divisor ≤ 1 := by
  rw [ceilDiv_le_iff_le_mul positive, Nat.mul_one]
  exact held

theorem ceilDiv_le_ceilDiv {fewer number small large : Nat} (below : fewer ≤ number) (asked : 0 < number)
    (positive : 0 < small) (cuts : 0 < large) (filled : fewer ≤ small ∨ large ≤ small) :
    fewer ⌈/⌉ small ≤ number ⌈/⌉ large := by
  rcases filled with held | wide
  · exact Nat.le_trans (ceilDiv_le_one positive held) (ceilDiv_pos asked cuts)
  · rw [ceilDiv_le_iff_le_mul positive]
    calc
      fewer ≤ number := below
      _ ≤ large * (number ⌈/⌉ large) := le_mul_ceilDiv number cuts
      _ ≤ small * (number ⌈/⌉ large) := Nat.mul_le_mul_right _ wide

theorem mul_ceilDiv_of_dvd {number divisor : Nat} (positive : 0 < divisor) (divides : divisor ∣ number) :
    divisor * (number ⌈/⌉ divisor) = number := by
  obtain ⟨quotient, rfl⟩ := divides
  have least : divisor * quotient ⌈/⌉ divisor ≤ quotient := (ceilDiv_le_iff_le_mul positive).mpr (Nat.le_refl _)
  exact Nat.le_antisymm (Nat.mul_le_mul_left divisor least) (le_mul_ceilDiv _ positive)

theorem roundUp?_eq_some_iff {a b multiple : Word} :
    roundUp? a b = some multiple ↔
      0 < b.toNat ∧ a.toNat + b.toNat ≤ count ∧ b.toNat * (a.toNat ⌈/⌉ b.toNat) = multiple.toNat := by
  rw [roundUp?, Option.bind_eq_bind, Option.bind_eq_some_iff]
  constructor
  · intro rounded
    obtain ⟨quotient, divided, product⟩ := rounded
    obtain ⟨positive, fits, exact⟩ := ceilDiv?_eq_some_iff.mp divided
    refine ⟨positive, by omega, ?_⟩
    rw [exact, Nat.mul_comm, mul?_eq_some_iff.mp product]
  · intro bounded
    obtain ⟨positive, fits, product⟩ := bounded
    cases divided : ceilDiv? a b with
    | none =>
      rcases ceilDiv?_eq_none_iff.mp divided with rfl | large
      · contradiction
      · omega
    | some quotient =>
      obtain ⟨_, _, exact⟩ := ceilDiv?_eq_some_iff.mp divided
      refine ⟨quotient, rfl, ?_⟩
      rw [mul?_eq_some_iff, Nat.mul_comm, ← exact, product]

-- The product is below the sum that the quotient has let pass.
theorem toNat_mul_of_ceilDiv? {a b quotient : Word} (divided : ceilDiv? a b = some quotient) :
    (quotient * b).toNat = quotient.toNat * b.toNat := by
  obtain ⟨positive, fits, exact⟩ := ceilDiv?_eq_some_iff.mp divided
  have below := mul_ceilDiv_lt_add a.toNat positive
  rw [exact, Nat.mul_comm] at below
  have small : quotient.toNat * b.toNat < count := by omega
  rw [UInt64.toNat_mul, Nat.mod_eq_of_lt small]

theorem roundUp?_of_ceilDiv? {a b quotient : Word} (divided : ceilDiv? a b = some quotient) :
    roundUp? a b = some (quotient * b) := by
  rw [roundUp?, divided]
  exact mul?_eq_some_iff.mpr (toNat_mul_of_ceilDiv? divided).symm

theorem roundUp?_eq_none_iff {a b : Word} :
    roundUp? a b = none ↔ b = 0 ∨ count < a.toNat + b.toNat := by
  rw [← ceilDiv?_eq_none_iff]
  constructor
  · intro refused
    cases divided : ceilDiv? a b with
    | none => rfl
    | some quotient =>
      rw [roundUp?_of_ceilDiv? divided] at refused
      contradiction
  · intro refused
    rw [roundUp?, refused]
    rfl

/-- The least number of some kind that is not below a number. -/
def LeastCover (kind : Nat → Prop) (number cover : Nat) : Prop :=
  IsLeast {covering | kind covering ∧ number ≤ covering} cover

namespace LeastCover

variable {kind : Nat → Prop} {number lesser cover smaller : Nat}

theorem le (least : LeastCover kind number cover) : number ≤ cover := least.1.2

theorem self (least : LeastCover kind number cover) : LeastCover kind cover cover :=
  ⟨⟨least.1.1, Nat.le_refl cover⟩, fun _ member => member.2⟩

theorem mono (least : LeastCover kind lesser smaller) (more : LeastCover kind number cover)
    (below : lesser ≤ number) : smaller ≤ cover := least.2 ⟨more.1.1, Nat.le_trans below more.le⟩

end LeastCover

/-- The least multiple of a divisor that is not below a number. -/
def LeastMultiple (divisor number multiple : Nat) : Prop :=
  IsLeast {covering | divisor ∣ covering ∧ number ≤ covering} multiple

theorem leastMultiple_iff_leastCover {divisor number multiple : Nat} :
    LeastMultiple divisor number multiple ↔ LeastCover (divisor ∣ ·) number multiple := Iff.rfl

theorem leastMultiple_mul_ceilDiv (number : Nat) {divisor : Nat} (positive : 0 < divisor) :
    LeastMultiple divisor number (divisor * (number ⌈/⌉ divisor)) := by
  constructor
  · exact ⟨Nat.dvd_mul_right _ _, le_mul_ceilDiv number positive⟩
  · intro covering member
    obtain ⟨⟨quotient, rfl⟩, covers⟩ := member
    have least : number ⌈/⌉ divisor ≤ quotient := (ceilDiv_le_iff_le_mul positive).mpr covers
    exact Nat.mul_le_mul_left divisor least

theorem leastMultiple_iff {number divisor multiple : Nat} (positive : 0 < divisor) :
    LeastMultiple divisor number multiple ↔ divisor * (number ⌈/⌉ divisor) = multiple := by
  have rounded := leastMultiple_mul_ceilDiv number positive
  exact ⟨fun least => rounded.unique least, fun same => same ▸ rounded⟩

namespace LeastMultiple

variable {divisor number multiple : Nat}

theorem le (least : LeastMultiple divisor number multiple) : number ≤ multiple := least.1.2

theorem lt_add (least : LeastMultiple divisor number multiple) (positive : 0 < divisor) :
    multiple < number + divisor :=
  (leastMultiple_iff positive).mp least ▸ mul_ceilDiv_lt_add number positive

theorem eq_zero_iff (least : LeastMultiple divisor number multiple) : multiple = 0 ↔ number = 0 := by
  constructor
  · intro zero
    exact Nat.le_zero.mp (zero ▸ least.le)
  · intro zero
    -- Zero is a multiple of every divisor.
    exact Nat.le_zero.mp (least.2 ⟨Nat.dvd_zero divisor, Nat.le_of_eq zero⟩)

theorem add_le_iff_lt {bound : Nat} (least : LeastMultiple divisor number multiple) (positive : 0 < divisor)
    (divides : divisor ∣ bound) : number + divisor ≤ bound ↔ multiple < bound := by
  constructor
  · exact Nat.lt_of_lt_of_le (least.lt_add positive)
  · intro below
    have room := Nat.le_of_dvd (Nat.sub_pos_of_lt below) (Nat.dvd_sub divides least.1.1)
    have covers := least.le
    omega

end LeastMultiple

theorem roundUp?_eq_some_iff_leastMultiple {a b multiple : Word} :
    roundUp? a b = some multiple ↔
      0 < b.toNat ∧ a.toNat + b.toNat ≤ count ∧ LeastMultiple b.toNat a.toNat multiple.toNat := by
  rw [roundUp?_eq_some_iff]
  exact and_congr_right fun positive => and_congr_right fun _ => (leastMultiple_iff positive).symm

end LaunchGeometry.Word
