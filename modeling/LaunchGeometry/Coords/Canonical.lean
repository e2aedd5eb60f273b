import LaunchGeometry.Coords.RowMajor

/-! The canonical form in three dimensions.

A vector of at most three dimensions is embedded by leading components that
leave its meaning alone: 0 for a point and 1 for an extent. The trailing
components of the embedding are the vector itself.
-/

set_option autoImplicit false

namespace LaunchGeometry

/-- A type whose values have one word for each of `D` dimensions. -/
class Components (α : Type) (D : outParam Nat) where
  component : α → Fin D → Word

variable {D : Nat} {α : Type}

instance : Components (Coords D) D where
  component := Coords.get

instance : Components (Vector Word D) D where
  component := Vector.get

instance : Components (Vector UInt32 D) D where
  component vector dim := (vector.get dim).toUInt64

instance : Components (Fin D → Word) D where
  component source := source

namespace Coords

def ofComponents [Components α D] (source : α) : Coords D := ofFn (Components.component source)

/-- The three dimensional vector that ends in the components of a source. -/
def embed [Components α D] (fits : D ≤ 3) (pad : Word) (source : α) : Coords 3 :=
  ofFn fun dim =>
    if leading : dim.val < 3 - D then pad
    else Components.component source ⟨dim.val - (3 - D), by omega⟩

def embedPoint [Components α D] (fits : D ≤ 3) (source : α) : Point 3 := embed fits 0 source

def embedExtent [Components α D] (fits : D ≤ 3) (source : α) : Extent 3 := embed fits 1 source

/-- The dimension of the canonical form that holds a dimension of the vector. -/
def canonicalDim (fits : D ≤ 3) (dim : Fin D) : Fin 3 := ⟨3 - D + dim.val, by omega⟩

/-- The last `D` components. The leading ones are dropped unseen. -/
def trailing (fits : D ≤ 3) (coords : Coords 3) : Coords D := ofFn fun dim => coords (canonicalDim fits dim)

@[simp] theorem component_coords (coords : Coords D) : Components.component coords = coords.get := rfl

@[simp] theorem ofComponents_apply [Components α D] (source : α) (dim : Fin D) :
    ofComponents source dim = Components.component source dim := ofFn_apply ..

@[simp] theorem ofComponents_coords (coords : Coords D) : ofComponents coords = coords :=
  ext (ofComponents_apply coords)

@[simp] theorem trailing_apply (fits : D ≤ 3) (coords : Coords 3) (dim : Fin D) :
    trailing fits coords dim = coords (canonicalDim fits dim) := ofFn_apply ..

theorem embed_apply_of_lt [Components α D] (fits : D ≤ 3) (pad : Word) (source : α) {dim : Fin 3}
    (leading : dim.val < 3 - D) : embed fits pad source dim = pad := by
  simp [embed, leading]

@[simp] theorem embed_canonicalDim [Components α D] (fits : D ≤ 3) (pad : Word) (source : α) (dim : Fin D) :
    embed fits pad source (canonicalDim fits dim) = Components.component source dim := by
  have trailing : ¬ 3 - D + dim.val < 3 - D := Nat.not_lt.mpr (Nat.le_add_right ..)
  simp only [embed, canonicalDim, ofFn_apply, dif_neg trailing, Nat.add_sub_cancel_left]

theorem embedExtent_apply_of_lt [Components α D] (fits : D ≤ 3) (source : α) {dim : Fin 3}
    (leading : dim.val < 3 - D) : embedExtent fits source dim = 1 := embed_apply_of_lt fits 1 source leading

@[simp] theorem embedExtent_canonicalDim [Components α D] (fits : D ≤ 3) (source : α) (dim : Fin D) :
    embedExtent fits source (canonicalDim fits dim) = Components.component source dim :=
  embed_canonicalDim fits 1 source dim

theorem leading_or_canonicalDim (fits : D ≤ 3) (dim : Fin 3) :
    dim.val < 3 - D ∨ ∃ inner, dim = canonicalDim fits inner := by
  by_cases leading : dim.val < 3 - D
  · exact .inl leading
  · exact .inr ⟨⟨dim.val - (3 - D), by omega⟩, Fin.ext (by simp [canonicalDim]; omega)⟩

theorem toList_embed (fits : D ≤ 3) (pad : Word) (coords : Coords D) :
    (embed fits pad coords).toList = List.replicate (3 - D) pad ++ coords.toList := by
  apply List.ext_getElem (by simp; omega)
  intro dim first second
  rw [getElem_toList _ _ first (by simpa using first)]
  rcases leading_or_canonicalDim fits ⟨dim, by simpa using first⟩ with leading | ⟨inner, same⟩
  · rw [embed_apply_of_lt fits pad coords leading, List.getElem_append_left (by simpa using leading)]
    simp
  · obtain rfl : dim = 3 - D + inner.val := congrArg Fin.val same
    rw [same, embed_canonicalDim, List.getElem_append_right (by simp)]
    simp [getElem_toList _ _ _ inner.isLt]

@[simp] theorem volume_embedExtent (fits : D ≤ 3) (extent : Extent D) :
    (embedExtent fits extent).volume = extent.volume := by
  rw [embedExtent, volume, toList_embed]
  induction 3 - D with
  | zero => rfl
  | succ leading ih => simpa [List.replicate_succ, product] using ih

end Coords

end LaunchGeometry
