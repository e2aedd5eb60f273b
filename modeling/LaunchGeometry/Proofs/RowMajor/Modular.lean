import LaunchGeometry.Coords.Arithmetic
import LaunchGeometry.Proofs.Canonical.Coords
import LaunchGeometry.Proofs.RowMajor.Size

/-! Sizes and positions modulo the number of words.

Wherever a product or a sum wraps on the way, the result is the remainder of the exact one. So a leading
dimension multiplies the size of the others, and adds its component times that size to a position. By
these two equations the size of a product of vectors is the product of their sizes, and a position is
linear in the point. Each component is weighted by the product of the extents after it, which the fold
over the dimensions never forms.
-/

set_option autoImplicit false

namespace LaunchGeometry.Coords

variable {D : Nat}

@[simp] theorem cons_add (first second : Word) (a b : Coords D) :
    cons first a + cons second b = cons (first + second) (a + b) := zipWith_cons ..

@[simp] theorem cons_mul (first second : Word) (a b : Coords D) :
    cons first a * cons second b = cons (first * second) (a * b) := zipWith_cons ..

@[simp] theorem size_cons (first : Word) (rest : Extent D) : size (cons first rest) = first * size rest := by
  rw [← UInt64.toNat_inj, toNat_size, UInt64.toNat_mul, toNat_size, volume_cons, Nat.mul_mod_mod]

@[simp] theorem linearize_nil (extent : Extent 0) (point : Point 0) : linearize extent point = 0 := by
  rw [eq_nil extent, eq_nil point]
  rfl

@[simp] theorem linearize_cons (first component : Word) (rest : Extent D) (later : Point D) :
    linearize (cons first rest) (cons component later) = component * size rest + linearize rest later := by
  rw [← UInt64.toNat_inj, UInt64.toNat_add, UInt64.toNat_mul, toNat_size, toNat_linearize, toNat_linearize,
    rank_cons, Nat.mul_mod_mod, ← Nat.add_mod]

theorem size_mul (a b : Coords D) : (a * b).size = a.size * b.size := by
  induction a using inductionOn with
  | nil =>
    rw [eq_nil b]
    rfl
  | cons first rest ih =>
    cases b using consCases with
    | cons second other =>
      simp only [cons_mul, size_cons, ih]
      ac_rfl

theorem volume_fill (scalar : Word) : (fill D scalar).volume = scalar.toNat ^ D := by
  simp [volume_eq_prod]

theorem linearize_add (extent : Extent D) (a b : Point D) :
    extent.linearize (a + b) = extent.linearize a + extent.linearize b := by
  induction extent using inductionOn with
  | nil => simp
  | cons first rest ih =>
    cases a using consCases with
    | cons component later =>
      cases b using consCases with
      | cons digit tail =>
        simp only [cons_add, linearize_cons, ih, UInt64.add_mul]
        ac_rfl

theorem linearize_sub (extent : Extent D) (a b : Point D) :
    extent.linearize (a - b) = extent.linearize a - extent.linearize b := by
  have whole := linearize_add extent (a - b) b
  rw [Coords.sub_add_cancel] at whole
  rw [whole, UInt64.add_sub_cancel]

theorem rank_eq_sum (extent : Extent D) (point : Point D) :
    rank extent point = ∑ dim, (point dim).toNat * ∏ later > dim, (extent later).toNat := by
  induction extent using inductionOn with
  | nil => rfl
  | cons first rest ih =>
    cases point using consCases with
    | cons component later =>
      rw [rank_cons, ih, Fin.sum_univ_succ, Fin.prod_Ioi_zero, volume_eq_prod]
      simp only [cons_zero, cons_succ, Fin.prod_Ioi_succ]

/-- The wrapping size takes products of vectors to products of words, also where components have wrapped. Equal
components give a power, and the canonical form of an extent has the size of the extent, wrapping or
checked. -/
theorem size_homomorphism (a b : Extent D) :
    (a * b).size = a.size * b.size ∧
    (∀ scalar : Word, (fill D scalar).size.toNat = scalar.toNat ^ D % Word.count) ∧
    ∀ fits : D ≤ 3, (embedExtent fits a).size = a.size ∧ (embedExtent fits a).size? = a.size? := by
  refine ⟨size_mul a b, fun scalar => ?_, fun fits => ⟨size_embedExtent fits a, size?_embedExtent fits a⟩⟩
  rw [toNat_size, volume_fill]

theorem size_homomorphism_wrapping :
    let square : Extent 2 := fill 2 4294967297
    let other : Extent 2 := ⟨[4294967296, 3], rfl⟩
    let fits : 2 ≤ 3 := by decide
    (square * other).size = square.size * other.size ∧ square.size.toNat = 8589934593 ∧
      (embedExtent fits square).size = square.size ∧ square.size? = none ∧
      (embedExtent fits square).size? = square.size? := by
  intro square other fits
  obtain ⟨product, power, canonical⟩ := size_homomorphism square other
  exact ⟨product, (power 4294967297).trans (by decide), (canonical fits).1, by decide, (canonical fits).2⟩

/-- Positions add and subtract as the points do, wherever the points lie and whatever wraps. A position is the sum
of the components, each times the extents after it, modulo the number of words. -/
theorem linearize_linear (extent : Extent D) (a b : Point D) :
    extent.linearize (a + b) = extent.linearize a + extent.linearize b ∧
    extent.linearize (a - b) = extent.linearize a - extent.linearize b ∧
    (extent.linearize a).toNat =
      (∑ dim, (a dim).toNat * ∏ later > dim, (extent later).toNat) % Word.count := by
  refine ⟨linearize_add extent a b, linearize_sub extent a b, ?_⟩
  rw [toNat_linearize, rank_eq_sum]

end LaunchGeometry.Coords
