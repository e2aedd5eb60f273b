import LaunchGeometry.Coords.RowMajor
import Mathlib.Algebra.BigOperators.Fin

/-! Sizes of extents as exact products.

The checked size looks for a zero component before it multiplies, since a running product that has
left the words would otherwise be refused although a zero follows. Without zeros a running product never
falls, and what is refused on the way would be refused at the end. So the checked size is the exact
product wherever that is one word, in whatever order the components stand, and the wrapping size is
the remainder of that product.
-/

set_option autoImplicit false

namespace LaunchGeometry.Coords

variable {D : Nat}

theorem volume_eq_prod (extent : Extent D) : extent.volume = ∏ dim, (extent dim).toNat := by
  induction extent using inductionOn with
  | nil => rfl
  | cons first rest ih =>
    rw [volume_cons, ih, Fin.prod_univ_succ]
    rfl

theorem map_size?_eq_some_iff {extent : Extent D} {count : Nat} :
    extent.size?.map UInt64.toNat = some count ↔ extent.volume = count ∧ count < Word.count := by
  rw [Option.map_eq_some_iff]
  constructor
  · intro counted
    obtain ⟨word, answered, rfl⟩ := counted
    exact ⟨size?_eq_some_iff.mp answered, Word.toNat_lt word⟩
  · intro exact
    obtain ⟨rfl, fits⟩ := exact
    exact ⟨extent.size, size?_of_lt fits, toNat_size_of_lt fits⟩

theorem size_eq_of_size? {extent : Extent D} {count : Word} (counted : extent.size? = some count) :
    extent.size = count := by
  have answered := size?_of_lt (volume_lt_of_size? counted)
  exact Option.some_inj.mp (answered.symm.trans counted)

def reorder (extent : Extent D) (order : Equiv.Perm (Fin D)) : Extent D := ofFn fun dim => extent (order dim)

theorem volume_reorder (extent : Extent D) (order : Equiv.Perm (Fin D)) :
    (extent.reorder order).volume = extent.volume := by
  simp only [volume_eq_prod, reorder, ofFn_apply]
  exact Equiv.prod_comp order fun dim => (extent dim).toNat

theorem size_reorder (extent : Extent D) (order : Equiv.Perm (Fin D)) :
    (extent.reorder order).size = extent.size := by
  rw [← UInt64.toNat_inj, toNat_size, toNat_size, volume_reorder]

theorem size?_reorder (extent : Extent D) (order : Equiv.Perm (Fin D)) :
    (extent.reorder order).size? = extent.size? := by
  ext count
  rw [size?_eq_some_iff, size?_eq_some_iff, volume_reorder]

/-- The checked size is the exact product of the components wherever the product is a word, and the wrapping
size is the remainder of the product. Where there is a checked size, the two agree, and neither depends on
the order of the components. -/
theorem sizes_exact (extent : Extent D) :
    (∀ count : Nat, extent.size?.map UInt64.toNat = some count ↔
      ∏ dim, (extent dim).toNat = count ∧ count < Word.count) ∧
    (∀ count, extent.size? = some count → extent.size = count) ∧
    extent.size.toNat = (∏ dim, (extent dim).toNat) % Word.count ∧
    ∀ order, (extent.reorder order).size? = extent.size? ∧ (extent.reorder order).size = extent.size := by
  rw [← volume_eq_prod]
  refine ⟨fun count => map_size?_eq_some_iff, fun count => size_eq_of_size?, toNat_size extent, fun order => ?_⟩
  exact ⟨size?_reorder extent order, size_reorder extent order⟩

theorem sizes_exact_zero_last :
    let extent : Extent 3 := ⟨[4294967296, 4294967296, 0], rfl⟩
    let large : Extent 2 := ⟨[4294967297, 18446744069414584321], rfl⟩
    extent.size? = some 0 ∧ extent.size = 0 ∧
      (extent.reorder (Equiv.swap 0 2)).size? = extent.size? ∧
      large.size? = none ∧ large.size = 1 ∧ large.size.toNat = (∏ dim, (large dim).toNat) % Word.count ∧
      (nil : Extent 0).size?.map UInt64.toNat = some 1 := by
  intro extent large
  have counted : extent.size? = some 0 := by decide
  obtain ⟨_, agrees, _, reorders⟩ := sizes_exact extent
  refine ⟨counted, agrees 0 counted, (reorders _).1, by decide, by decide, (sizes_exact large).2.2.1, ?_⟩
  exact ((sizes_exact nil).1 1).mpr ⟨rfl, by decide⟩

end LaunchGeometry.Coords
