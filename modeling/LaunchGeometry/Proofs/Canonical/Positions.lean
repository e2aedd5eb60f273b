import LaunchGeometry.Proofs.Canonical.Coords
import LaunchGeometry.Proofs.RowMajor.Decoding

/-! Positions in embedded extents.

A leading component of zero adds nothing to the rank of a point, and a leading extent of one changes no volume.
A position is the rank modulo the number of words, so that embedding changes no position, wherever the point
lies and whatever wraps. Decoding answers the one point inside that has the rank which the number leaves modulo
the volume. The embedding of that point is inside the embedded extent and has the same rank, also where the
number exceeds the volume. A zero component faults alike in both extents, since no padding is zero.
-/

set_option autoImplicit false

namespace LaunchGeometry.Coords

variable {D : Nat} (fits : D ≤ 3)

theorem linearize_embed (extent : Extent D) (point : Point D) :
    (embedExtent fits extent).linearize (embedPoint fits point) = extent.linearize point := by
  rw [← UInt64.toNat_inj, toNat_linearize, toNat_linearize, rank_embed]

theorem nonzero_of_delinearize {extent : Extent D} {position : Word} {point : Point D}
    (decoded : extent.delinearize position = .ok point) : extent.Nonzero := by
  intro dim zero
  rw [delinearize_eq_error_iff.mpr ⟨rfl, dim, zero⟩] at decoded
  contradiction

theorem delinearize_embed (extent : Extent D) (position : Word) :
    (embedExtent fits extent).delinearize position = (extent.delinearize position).map (embedPoint fits) := by
  cases decoded : extent.delinearize position with
  | ok point => exact delinearize_embedExtent fits (nonzero_of_delinearize decoded) decoded
  | error fault =>
    obtain ⟨rfl, dim, zero⟩ := delinearize_eq_error_iff.mp decoded
    apply delinearize_eq_error_iff.mpr
    exact ⟨rfl, canonicalDim fits dim, by rw [embedExtent_canonicalDim]; exact zero⟩

/-- An embedded point has the position of the point in the embedded extent, inside the extent or not, and also
where the volume is no word. A position is decoded to the embedding of the point that it is decoded to in the
extent, and faults as it does there. -/
theorem embed_keeps_positions (extent : Extent D) (point : Point D) (position : Word) :
    (embedExtent fits extent).linearize (embedPoint fits point) = extent.linearize point ∧
    (embedExtent fits extent).delinearize position = (extent.delinearize position).map (embedPoint fits) :=
  ⟨linearize_embed fits extent point, delinearize_embed fits extent position⟩

theorem embed_keeps_positions_outside :
    let fits : 2 ≤ 3 := by decide
    let wide : Extent 2 := ⟨[4294967296, 4294967297], rfl⟩
    let outside : Point 2 := ⟨[4294967296, 18446744073709551615], rfl⟩
    let small : Extent 2 := ⟨[2, 3], rfl⟩
    let empty : Extent 2 := ⟨[0, 3], rfl⟩
    (embedExtent fits wide).linearize (embedPoint fits outside) = 4294967295 ∧
      (embedExtent fits small).delinearize 10 = .ok ⟨[0, 1, 1], rfl⟩ ∧
      (embedExtent fits empty).delinearize 10 = .error .remainder := by
  intro fits wide outside small empty
  obtain ⟨placed, _⟩ := embed_keeps_positions fits wide outside 0
  obtain ⟨_, decoded⟩ := embed_keeps_positions fits small outside 10
  obtain ⟨_, faulted⟩ := embed_keeps_positions fits empty outside 10
  exact ⟨placed.trans (by decide), decoded.trans (by decide), faulted.trans (by decide)⟩

end LaunchGeometry.Coords
