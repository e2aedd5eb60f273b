import LaunchGeometry.Coords.Arithmetic
import LaunchGeometry.Coords.Canonical
import LaunchGeometry.Coords.RowMajor
import LaunchGeometry.Refusal
import LaunchGeometry.Rounding
import LaunchGeometry.Traced

/-! Launches: a global range of work items, cut into work groups of one local range.

Work groups tile every launch, and one word counts its work items. Both
constructors establish this and every operation keeps it, so that no count of a
launch wraps and no division in it faults.
-/

set_option autoImplicit false

namespace LaunchGeometry

open Coords

variable {D : Nat}

/-- Copies of the local range fill the global range. -/
def Tiles (localRange globalRange : Extent D) : Prop :=
  ∀ dim, localRange dim ≠ 0 ∧ globalRange dim % localRange dim = 0

instance (localRange globalRange : Extent D) : Decidable (Tiles localRange globalRange) :=
  inferInstanceAs (Decidable (∀ dim, localRange dim ≠ 0 ∧ globalRange dim % localRange dim = 0))

/-- The offset is the first work item; it does not take part in the tiling. -/
structure Launch (D : Nat) where
  globalRange : Extent D
  localRange : Extent D
  offset : Point D
  tiles : Tiles localRange globalRange
  fits : globalRange.volume < Word.count
  deriving DecidableEq

theorem Tiles.embed {localRange globalRange : Extent D} (fits : D ≤ 3)
    (tiles : Tiles localRange globalRange) :
    Tiles (embedExtent fits localRange) (embedExtent fits globalRange) := by
  intro dim
  rcases leading_or_canonicalDim fits dim with leading | ⟨inner, rfl⟩
  · simp only [embedExtent, embed_apply_of_lt fits _ _ leading]
    decide
  · simpa [embedExtent] using tiles inner

namespace Launch

/-- A tiled launch at the origin, unless its work items exceed one word. -/
def ofTiles (globalRange localRange : Extent D) (tiles : Tiles localRange globalRange) :
    Traced Refusal (Launch D) :=
  match counted : globalRange.size? with
  | none => .failWith (.volumeOverflow globalRange) .volumeOverflow
  | some _ => .ok ⟨globalRange, localRange, fill D 0, tiles, volume_lt_of_size? counted⟩

/-- The launch of a global range that is a multiple of the local range as it stands. -/
def exact (globalRange localRange : Extent D) : Traced Refusal (Launch D) :=
  match searched : localRange.zeroDim? with
  | some dim => .fail (.zeroLocalSize dim)
  | none =>
    have nonzero := zeroDim?_eq_none_iff.mp searched
    match divided : firstDim? fun dim => globalRange.remainder localRange nonzero dim != 0 with
    | some dim => .fail (.notDivisible dim (globalRange dim) (localRange dim))
    | none =>
      ofTiles globalRange localRange fun dim =>
        ⟨nonzero dim, by simpa using firstDim?_eq_none_iff.mp divided dim⟩

def roundUp (globalRange localRange : Extent D) : Except Refusal (Extent D) :=
  ofFnM fun dim =>
    match (globalRange dim).roundUp? (localRange dim) with
    | some multiple => .ok multiple
    | none => .error (.rangeOverflow dim (globalRange dim) (localRange dim))

theorem roundUp_eq_ok_iff {globalRange localRange rounded : Extent D} :
    roundUp globalRange localRange = .ok rounded ↔
      ∀ dim, (globalRange dim).roundUp? (localRange dim) = some (rounded dim) := by
  rw [roundUp, ofFnM_eq_ok_iff]
  refine forall_congr' fun dim => ?_
  cases (globalRange dim).roundUp? (localRange dim) <;> simp

theorem roundUp_eq_error_iff {globalRange localRange : Extent D} {refusal : Refusal} :
    roundUp globalRange localRange = .error refusal ↔
      ∃ dim : Fin D, refusal = .rangeOverflow dim (globalRange dim) (localRange dim) ∧
        (globalRange dim).roundUp? (localRange dim) = none ∧
        ∀ earlier < dim, (globalRange earlier).roundUp? (localRange earlier) ≠ none := by
  rw [roundUp, ofFnM_eq_error_iff]
  refine exists_congr fun dim => ?_
  rw [← and_assoc]
  refine and_congr ?_ (forall₂_congr fun earlier _ => ?_)
  · cases (globalRange dim).roundUp? (localRange dim) <;> simp [eq_comm]
  · cases (globalRange earlier).roundUp? (localRange earlier) <;> simp

theorem tiles_of_roundUp {globalRange localRange rounded : Extent D} (nonzero : localRange.Nonzero)
    (multiple : roundUp globalRange localRange = .ok rounded) : Tiles localRange rounded :=
  fun dim => ⟨nonzero dim, Word.mod_eq_zero_of_roundUp? (roundUp_eq_ok_iff.mp multiple dim)⟩

/-- The launch of a global range rounded up to a multiple of the local range. A change of the range
is reported. -/
def padded (globalRange localRange : Extent D) : Traced Refusal (Launch D) :=
  match searched : localRange.zeroDim? with
  | some dim => .fail (.zeroLocalSize dim)
  | none =>
    match multiple : roundUp globalRange localRange with
    | .error refusal => .fail refusal
    | .ok rounded => do
      let launch ← ofTiles rounded localRange (tiles_of_roundUp (zeroDim?_eq_none_iff.mp searched) multiple)
      if rounded = globalRange then .ok launch else .okWith (.padded globalRange rounded localRange) launch

/-- The same work items and groups, with the first work item elsewhere. -/
def withOffset (launch : Launch D) (offset : Point D) : Launch D := { launch with offset }

def embed (fits : D ≤ 3) (launch : Launch D) : Launch 3 where
  globalRange := embedExtent fits launch.globalRange
  localRange := embedExtent fits launch.localRange
  offset := embedPoint fits launch.offset
  tiles := launch.tiles.embed fits
  fits := (volume_embedExtent fits launch.globalRange).symm ▸ launch.fits

theorem nonzero_localRange (launch : Launch D) : launch.localRange.Nonzero := fun dim => (launch.tiles dim).1

/-- The number of work groups along each dimension. -/
def groupCounts (launch : Launch D) : Extent D :=
  launch.globalRange.quotient launch.localRange launch.nonzero_localRange

def groupSize (launch : Launch D) : Word := launch.localRange.size

def size (launch : Launch D) : Word := launch.globalRange.size

@[simp] theorem groupCounts_apply (launch : Launch D) (dim : Fin D) :
    launch.groupCounts dim = launch.globalRange dim / launch.localRange dim := quotient_apply ..

theorem toNat_size (launch : Launch D) : launch.size.toNat = launch.globalRange.volume :=
  toNat_size_of_lt launch.fits

end Launch

end LaunchGeometry
