import LaunchGeometry.Proofs.Canonical.Coords
import LaunchGeometry.Proofs.Launch.Construction

/-! Building launches from ranges in canonical form.

Both constructors accept the padding of the local range, find it dividing the
padding of the global range, and round it up to itself. So they answer for
embedded ranges what they answer for the ranges: the canonical form of the same
launch, or the same refusal of a dimension that is numbered from further ahead.
-/

set_option autoImplicit false

namespace LaunchGeometry

open Coords

/-- The refusal of the same dimension where more dimensions stand in front of it. -/
def Refusal.shiftDim (leading : Nat) : Refusal → Refusal
  | .zeroLocalSize dim => .zeroLocalSize (leading + dim)
  | .notDivisible dim globalSize localSize => .notDivisible (leading + dim) globalSize localSize
  | .rangeOverflow dim globalSize localSize => .rangeOverflow (leading + dim) globalSize localSize
  | .volumeOverflow => .volumeOverflow
  | .groupTooLarge size max => .groupTooLarge size max
  | .tooManyGroups dim groups max => .tooManyGroups (leading + dim) groups max
  | .allocationOverflow bytes => .allocationOverflow bytes
  | .zeroAlignment => .zeroAlignment

namespace Launch

variable {D : Nat} (fits : D ≤ 3) (globalRange localRange : Extent D)

theorem zeroDim?_embedExtent :
    (embedExtent fits localRange).zeroDim? = localRange.zeroDim?.map (canonicalDim fits) := by
  unfold zeroDim?
  rw [firstDim?_canonical fits]
  · simp
  · intro dim below
    rw [embedExtent_apply_of_lt fits localRange below]
    rfl

theorem indivisibleDim?_embedExtent :
    indivisibleDim? (embedExtent fits globalRange) (embedExtent fits localRange) =
      (indivisibleDim? globalRange localRange).map (canonicalDim fits) := by
  unfold indivisibleDim?
  rw [firstDim?_canonical fits]
  · simp
  · intro dim below
    rw [embedExtent_apply_of_lt fits localRange below, embedExtent_apply_of_lt fits globalRange below]
    rfl

theorem roundUp_embedExtent :
    roundUp (embedExtent fits globalRange) (embedExtent fits localRange) =
      ((roundUp globalRange localRange).map (embedExtent fits)).mapError (Refusal.shiftDim (3 - D)) := by
  apply ofFnM_canonical fits
  · intro dim below
    rw [embedExtent_apply_of_lt fits localRange below, embedExtent_apply_of_lt fits globalRange below]
    rfl
  · intro dim
    simp only [embedExtent_canonicalDim, component_coords]
    cases (globalRange dim).roundUp? (localRange dim) <;> rfl

def embedOutcome (outcome : Except Refusal (Launch D)) : Except Refusal (Launch 3) :=
  (outcome.map (embed fits)).mapError (Refusal.shiftDim (3 - D))

theorem ofTiles_embedExtent (tiles : Tiles localRange globalRange) :
    (ofTiles (embedExtent fits globalRange) (embedExtent fits localRange) (tiles.embed fits)).outcome =
      embedOutcome fits (ofTiles globalRange localRange tiles).outcome := by
  have volume := volume_embedExtent fits globalRange
  rcases Nat.lt_or_ge globalRange.volume Word.count with small | large
  · rw [ofTiles_of_lt small, ofTiles_of_lt (volume.symm ▸ small)]
    apply congrArg Except.ok
    simp only [embed, embedPoint_fill_zero]
  · rw [ofTiles_of_le large, ofTiles_of_le (volume.symm ▸ large)]
    rfl

theorem exact_embedExtent :
    (exact (embedExtent fits globalRange) (embedExtent fits localRange)).outcome =
      embedOutcome fits (exact globalRange localRange).outcome := by
  have zero := zeroDim?_embedExtent fits localRange
  have indivisible := indivisibleDim?_embedExtent fits globalRange localRange
  cases searched : localRange.zeroDim? with
  | some dim =>
    rw [searched] at zero
    rw [exact_of_zeroDim searched, exact_of_zeroDim zero]
    rfl
  | none =>
    have nonzero := zeroDim?_eq_none_iff.mp searched
    cases divided : indivisibleDim? globalRange localRange with
    | some dim =>
      rw [divided] at indivisible
      rw [exact_of_indivisibleDim nonzero divided,
        exact_of_indivisibleDim ((nonzero_embedExtent_iff fits).mpr nonzero) indivisible]
      simp only [embedExtent_canonicalDim, component_coords]
      rfl
    | none =>
      have tiles := tiles_of_indivisibleDim nonzero divided
      rw [exact_of_tiles tiles, exact_of_tiles (tiles.embed fits)]
      exact ofTiles_embedExtent fits globalRange localRange tiles

theorem padded_embedExtent :
    (padded (embedExtent fits globalRange) (embedExtent fits localRange)).outcome =
      embedOutcome fits (padded globalRange localRange).outcome := by
  have zero := zeroDim?_embedExtent fits localRange
  have multiples := roundUp_embedExtent fits globalRange localRange
  cases searched : localRange.zeroDim? with
  | some dim =>
    rw [searched] at zero
    rw [padded_of_zeroDim searched, padded_of_zeroDim zero]
    rfl
  | none =>
    have nonzero := zeroDim?_eq_none_iff.mp searched
    have nonzeroEmbedded := (nonzero_embedExtent_iff fits).mpr nonzero
    cases multiple : roundUp globalRange localRange with
    | error refusal =>
      rw [multiple] at multiples
      rw [padded_of_roundUp_error nonzero multiple, padded_of_roundUp_error nonzeroEmbedded multiples]
      rfl
    | ok rounded =>
      rw [multiple] at multiples
      rw [padded_outcome_of_roundUp nonzero multiple, padded_outcome_of_roundUp nonzeroEmbedded multiples]
      exact ofTiles_embedExtent fits rounded localRange (tiles_of_roundUp nonzero multiple)

/-- Embedding commutes with both constructors. For embedded ranges each of them builds the canonical form of
the launch that it builds for the ranges, or refuses with the same numbers the dimension that holds the one
it refuses for the ranges. -/
theorem embed_commutes :
    (exact (embedExtent fits globalRange) (embedExtent fits localRange)).outcome =
        ((exact globalRange localRange).outcome.map (embed fits)).mapError (Refusal.shiftDim (3 - D)) ∧
      (padded (embedExtent fits globalRange) (embedExtent fits localRange)).outcome =
        ((padded globalRange localRange).outcome.map (embed fits)).mapError (Refusal.shiftDim (3 - D)) :=
  ⟨exact_embedExtent fits globalRange localRange, padded_embedExtent fits globalRange localRange⟩

theorem embed_commutes_second :
    let fits : 2 ≤ 3 := by decide
    let globalRange : Extent 2 := ⟨[6, 18446744073709551615], rfl⟩
    let uneven : Extent 2 := ⟨[6, 3], rfl⟩
    let launch : Launch 2 := ⟨⟨[6, 4], rfl⟩, ⟨[3, 2], rfl⟩, ⟨[0, 0], rfl⟩, by decide, by decide⟩
    (exact (embedExtent fits globalRange) (embedExtent fits launch.localRange)).outcome =
        .error (.notDivisible 2 18446744073709551615 2) ∧
      (padded (embedExtent fits globalRange) (embedExtent fits launch.localRange)).outcome =
        .error (.rangeOverflow 2 18446744073709551615 2) ∧
      (exact (embedExtent fits launch.globalRange) (embedExtent fits launch.localRange)).outcome =
        .ok (launch.embed fits) ∧
      (padded (embedExtent fits uneven) (embedExtent fits launch.localRange)).outcome = .ok (launch.embed fits) := by
  intro fits globalRange uneven launch
  obtain ⟨refused, refusedRounding⟩ := embed_commutes fits globalRange launch.localRange
  obtain ⟨built, _⟩ := embed_commutes fits launch.globalRange launch.localRange
  obtain ⟨_, rounded⟩ := embed_commutes fits uneven launch.localRange
  exact ⟨refused.trans (by decide), refusedRounding.trans (by decide), built.trans (by decide),
    rounded.trans (by decide)⟩

end Launch

end LaunchGeometry
