import LaunchGeometry.Proofs.RowMajor.Order

/-! Positions in an extent whose volume is one word.

No position of a point inside such an extent wraps. Positions number the points
inside from zero up, in the lexicographic order of the points, and taking digits
off a position leads back to its point.
-/

set_option autoImplicit false

namespace LaunchGeometry.Coords

variable {D : Nat} {extent : Extent D} {point other : Point D}

theorem nonzero_of_inside (inside : Inside extent point) : extent.Nonzero := by
  intro dim zero
  have below := inside dim
  rw [zero] at below
  exact UInt64.not_lt_zero below

/-- The digits come off in the opposite direction to the one in which the position was summed up. -/
theorem delinearize_linearize (fits : extent.volume < Word.count) (inside : Inside extent point) :
    extent.delinearize (extent.linearize point) = .ok point := by
  apply (delinearize_eq_ok_iff (nonzero_of_inside inside)).mpr
  constructor
  · exact inside
  · rw [toNat_linearize_of_inside fits inside, Nat.mod_eq_of_lt (rank_lt_volume inside)]

theorem linearize_lt_linearize_iff (fits : extent.volume < Word.count) (inside : Inside extent point)
    (within : Inside extent other) :
    extent.linearize point < extent.linearize other ↔ Precedes point other := by
  rw [UInt64.lt_iff_toNat_lt, toNat_linearize_of_inside fits inside, toNat_linearize_of_inside fits within]
  exact rank_lt_rank_iff inside within

/-- Where the size of an extent is not refused, positions are an order isomorphism from the points inside
it to the numbers below its size, and decoding a position is its inverse. -/
theorem linearize_order_isomorphism {count : Word} (counted : extent.size? = some count) :
    (∀ point, Inside extent point →
      extent.linearize point < count ∧ extent.delinearize (extent.linearize point) = .ok point) ∧
    (∀ point other, Inside extent point → Inside extent other →
      (extent.linearize point < extent.linearize other ↔ Precedes point other)) ∧
    ∀ position < count, ∃! point, Inside extent point ∧ extent.linearize point = position := by
  have fits := volume_lt_of_size? counted
  have volume := size?_eq_some_iff.mp counted
  constructor
  · intro point inside
    have below := rank_lt_volume inside
    rw [← toNat_linearize_of_inside fits inside, volume] at below
    exact ⟨UInt64.lt_iff_toNat_lt.mpr below, delinearize_linearize fits inside⟩
  constructor
  · intro point other inside within
    exact linearize_lt_linearize_iff fits inside within
  · intro position below
    apply existsUnique_linearize_eq fits
    rw [volume]
    exact UInt64.lt_iff_toNat_lt.mp below

theorem linearize_order_isomorphism_largest :
    let extent : Extent 2 := ⟨[3, 6148914691236517205], rfl⟩
    let first : Point 2 := ⟨[1, 6148914691236517204], rfl⟩
    let last : Point 2 := ⟨[2, 6148914691236517204], rfl⟩
    extent.size? = some 18446744073709551615 ∧ Inside extent first ∧ Inside extent last ∧
      extent.linearize last = 18446744073709551614 ∧
      extent.delinearize (extent.linearize last) = .ok last ∧
      (extent.linearize first < extent.linearize last ↔ Precedes first last) := by
  intro extent first last
  have counted : extent.size? = some 18446744073709551615 := by decide
  have before : Inside extent first := by decide
  have inside : Inside extent last := by decide
  obtain ⟨decodes, orders, _⟩ := linearize_order_isomorphism counted
  exact ⟨counted, before, inside, by decide, (decodes last inside).2, orders first last before inside⟩

end LaunchGeometry.Coords
