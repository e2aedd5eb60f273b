import LaunchGeometry.Proofs.Canonical.Coords

/-! The trailing components of embedded vectors.

An embedding reads its source by components only, so that a source and the vector copied from it have one
embedding, and the trailing components of that embedding are the copy. In the other direction the leading
components are lost: embedding what is left puts the padding in their place, which restores a vector exactly
where the padding stood there before.
-/

set_option autoImplicit false

namespace LaunchGeometry.Coords

variable {D : Nat} {α : Type} [Components α D] (fits : D ≤ 3)

theorem embed_ofComponents (pad : Word) (source : α) :
    embed fits pad (ofComponents source) = embed fits pad source := by
  apply (eq_embed_iff fits).mpr
  constructor
  · intro dim below
    exact embed_apply_of_lt fits pad (ofComponents source) below
  · intro dim
    rw [embed_canonicalDim, component_coords]
    exact ofComponents_apply source dim

theorem trailing_embed_source (pad : Word) (source : α) :
    trailing fits (embed fits pad source) = ofComponents source := by
  rw [← embed_ofComponents]
  exact trailing_embed fits pad (ofComponents source)

omit [Components α D] in
theorem embed_trailing_eq_iff {pad : Word} {coords : Coords 3} :
    embed fits pad (trailing fits coords) = coords ↔ ∀ dim : Fin 3, dim.val < 3 - D → coords dim = pad := by
  rw [eq_comm, eq_embed_iff fits]
  exact and_iff_left fun dim => (trailing_apply fits coords dim).symm

/-- A source and its copy have the same embedding, and the trailing components of that embedding are the copy,
for points and for extents. Embedding the trailing components of a vector restores it exactly if its leading
components are the padding: all 0 for a point, all 1 for an extent. -/
theorem trailing_inverts_embed (source : α) (coords : Coords 3) :
    (embedPoint fits source = embedPoint fits (ofComponents source) ∧
      trailing fits (embedPoint fits source) = ofComponents source) ∧
    (embedExtent fits source = embedExtent fits (ofComponents source) ∧
      trailing fits (embedExtent fits source) = ofComponents source) ∧
    (embedPoint fits (trailing fits coords) = coords ↔ ∀ dim : Fin 3, dim.val < 3 - D → coords dim = 0) ∧
    (embedExtent fits (trailing fits coords) = coords ↔ ∀ dim : Fin 3, dim.val < 3 - D → coords dim = 1) := by
  refine ⟨⟨?_, ?_⟩, ⟨?_, ?_⟩, ?_, ?_⟩
  · exact (embed_ofComponents fits 0 source).symm
  · exact trailing_embed_source fits 0 source
  · exact (embed_ofComponents fits 1 source).symm
  · exact trailing_embed_source fits 1 source
  · exact embed_trailing_eq_iff fits
  · exact embed_trailing_eq_iff fits

theorem trailing_inverts_embed_narrow :
    let fits : 2 ≤ 3 := by decide
    let narrow : Vector UInt32 2 := #v[4, 5]
    let affine : Fin 2 → Word := fun dim => 18446744073709551615 + UInt64.ofNat dim.val
    let coords : Coords 3 := ⟨[1, 4, 5], rfl⟩
    embedPoint fits narrow = ⟨[0, 4, 5], rfl⟩ ∧ trailing fits (embedPoint fits narrow) = ofComponents narrow ∧
      embedExtent fits affine = ⟨[1, 18446744073709551615, 0], rfl⟩ ∧
      embedExtent fits affine = embedExtent fits (ofComponents affine) ∧
      embedExtent fits (trailing fits coords) = coords ∧ embedPoint fits (trailing fits coords) ≠ coords := by
  intro fits narrow affine coords
  obtain ⟨point, _, _, restored⟩ := trailing_inverts_embed fits narrow coords
  obtain ⟨_, extent, lost, _⟩ := trailing_inverts_embed fits affine coords
  refine ⟨by decide, point.2, by decide, extent.1, restored.mpr (by decide), ?_⟩
  intro same
  exact absurd (lost.mp same 0 (by decide)) (by decide)

end LaunchGeometry.Coords
