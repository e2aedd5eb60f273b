import LaunchGeometry.Limits
import LaunchGeometry.Proofs.Ceiling
import LaunchGeometry.Proofs.RowMajor.Rank

/-! The distribution of a number of work groups over x, y and z.

A distribution leaves by one of six exits. If it succeeds, it has filled x, then y,
then z with rounded-up quotients. The dispatched box covers the groups asked for, by
less than one more layer of x and y. The refusing quotient for z bounds it by one
word, so that every group asked for has exactly one id.
-/

set_option autoImplicit false

namespace LaunchGeometry

open Coords

namespace Dispatch

/-- The extent of the box of groups, with z as the first dimension. -/
def extent (dispatch : Dispatch) : Extent 3 :=
  ⟨[dispatch.z.toUInt64, dispatch.y.toUInt64, dispatch.x.toUInt64], rfl⟩

theorem volume_extent (dispatch : Dispatch) :
    dispatch.extent.volume = dispatch.z.toNat * (dispatch.y.toNat * dispatch.x.toNat) := by
  simp [volume, extent, product]

theorem component_eq_ok_iff (dim : Nat) {groups : Word} {count : UInt32} :
    component dim groups = .ok count ↔ count.toNat = groups.toNat := by
  have bound := count.toNat_lt
  unfold component
  split
  next fits =>
    have small := UInt64.le_iff_toNat_le.mp fits
    change groups.toNat ≤ 4294967295 at small
    rw [Except.ok.injEq, ← UInt32.toNat_inj, UInt64.toNat_toUInt32, Nat.mod_eq_of_lt (by omega), eq_comm]
  next large =>
    rw [UInt64.not_le, UInt64.lt_iff_toNat_lt] at large
    change 4294967295 < groups.toNat at large
    exact iff_of_false (by simp) (by omega)

theorem components_eq_ok_iff {x y z : Word} {dispatch : Dispatch} :
    (do return ⟨← component 0 x, ← component 1 y, ← component 2 z⟩ : Except Refusal Dispatch) = .ok dispatch ↔
      dispatch.x.toNat = x.toNat ∧ dispatch.y.toNat = y.toNat ∧ dispatch.z.toNat = z.toNat := by
  obtain ⟨first, second, third⟩ := dispatch
  rw [← component_eq_ok_iff 0, ← component_eq_ok_iff 1, ← component_eq_ok_iff 2]
  cases component 0 x <;> cases component 1 y <;> cases component 2 z <;>
    simp [bind, Except.bind, pure, Except.pure]

theorem component_of_le (dim : Nat) {groups : Word} (fits : groups ≤ maxCount) :
    component dim groups = .ok groups.toUInt32 := if_pos fits

theorem component_of_not_le (dim : Nat) {groups : Word} (wide : ¬ groups ≤ maxCount) :
    component dim groups = .error (.tooManyGroups dim groups maxCount) := if_neg wide

theorem components_of_le {x y z : Word} (width : x ≤ maxCount) (height : y ≤ maxCount) (depth : z ≤ maxCount) :
    ∃ dispatch : Dispatch,
      (do return ⟨← component 0 x, ← component 1 y, ← component 2 z⟩ : Except Refusal Dispatch) =
        .ok dispatch := by
  rw [component_of_le 0 width, component_of_le 1 height, component_of_le 2 depth]
  exact ⟨_, rfl⟩

end Dispatch

namespace Limits

variable {limits : Limits} {total : Word} {dispatch : Dispatch}

theorem toNat_dispatchLimit (limits : Limits) :
    limits.dispatchLimit.toNat = min limits.maxGroupsPerDim.toNat 4294967295 := Word.toNat_min ..

theorem dispatchLimit_le (limits : Limits) : limits.dispatchLimit ≤ Dispatch.maxCount := by
  rw [UInt64.le_iff_toNat_le, toNat_dispatchLimit]
  exact Nat.min_le_right ..

theorem min_dispatchLimit_le (limits : Limits) (count : Word) :
    min count limits.dispatchLimit ≤ Dispatch.maxCount := by
  refine UInt64.le_trans ?_ limits.dispatchLimit_le
  rw [UInt64.le_iff_toNat_le, Word.toNat_min]
  exact Nat.min_le_right ..

/-- The dispatch of a positive number of groups, in exact numbers. -/
structure Distributes (limits : Limits) (total : Nat) (dispatch : Dispatch) : Prop where
  limit_pos : 0 < limits.dispatchLimit.toNat
  x_eq : dispatch.x.toNat = min total limits.dispatchLimit.toNat
  y_eq : dispatch.y.toNat = min (total ⌈/⌉ dispatch.x.toNat) limits.dispatchLimit.toNat
  z_eq : dispatch.z.toNat = total ⌈/⌉ (dispatch.x.toNat * dispatch.y.toNat)
  z_le : dispatch.z.toNat ≤ limits.dispatchLimit.toNat
  fits : total + (dispatch.x.toNat * dispatch.y.toNat - 1) < Word.count

def width (limits : Limits) (groups : Nat) : Nat := min groups limits.dispatchLimit.toNat

def height (limits : Limits) (groups : Nat) : Nat :=
  min (groups ⌈/⌉ limits.width groups) limits.dispatchLimit.toNat

def layer (limits : Limits) (groups : Nat) : Nat := limits.width groups * limits.height groups

theorem width_le (limits : Limits) (groups : Nat) : limits.width groups ≤ limits.dispatchLimit.toNat :=
  Nat.min_le_right ..

theorem height_le (limits : Limits) (groups : Nat) : limits.height groups ≤ limits.dispatchLimit.toNat :=
  Nat.min_le_right ..

theorem layer_le_square (limits : Limits) (groups : Nat) :
    limits.layer groups ≤ limits.dispatchLimit.toNat * limits.dispatchLimit.toNat :=
  Nat.mul_le_mul (limits.width_le groups) (limits.height_le groups)

section

variable {groups : Nat} (asked : 0 < groups) (positive : 0 < limits.dispatchLimit.toNat)

include asked positive

theorem width_pos : 0 < limits.width groups := Nat.lt_min.mpr ⟨asked, positive⟩

theorem height_pos : 0 < limits.height groups :=
  Nat.lt_min.mpr ⟨Word.ceilDiv_pos asked (width_pos asked positive), positive⟩

theorem layer_pos : 0 < limits.layer groups :=
  Nat.mul_pos (width_pos asked positive) (height_pos asked positive)

end

theorem toNat_width (limits : Limits) (total : Word) :
    (min total limits.dispatchLimit).toNat = limits.width total.toNat := Word.toNat_min ..

theorem toNat_height {rows : Word} (divided : total.ceilDiv? (min total limits.dispatchLimit) = some rows) :
    (min rows limits.dispatchLimit).toNat = limits.height total.toNat := by
  obtain ⟨_, _, rowed⟩ := Word.ceilDiv?_eq_some_iff.mp divided
  rw [Word.toNat_min, ← rowed, toNat_width]
  rfl

-- Both factors are at most the width of a component, so that the product is exact.
theorem toNat_layer {rows : Word} (divided : total.ceilDiv? (min total limits.dispatchLimit) = some rows) :
    (min total limits.dispatchLimit * min rows limits.dispatchLimit).toNat = limits.layer total.toNat := by
  have limit : limits.dispatchLimit.toNat ≤ 4294967295 := toNat_dispatchLimit limits ▸ Nat.min_le_right ..
  have narrow := Nat.le_trans (limits.layer_le_square total.toNat) (Nat.mul_le_mul limit limit)
  rw [UInt64.toNat_mul, toNat_width, toNat_height divided]
  exact Nat.mod_eq_of_lt (Nat.lt_of_le_of_lt narrow (by decide))

/-- The exits of a distribution, with what has been found on the way to them in exact numbers. -/
inductive Exit (limits : Limits) (total : Word) : Traced Refusal Dispatch → Prop where
  | nothing : total = 0 → Exit limits total (.ok ⟨0, 0, 0⟩)
  | closed : 0 < total.toNat → limits.dispatchLimit.toNat = 0 →
      Exit limits total (.fail (.tooManyGroups 0 total limits.dispatchLimit))
  | rows : 0 < total.toNat → 0 < limits.dispatchLimit.toNat →
      Word.count < total.toNat + limits.width total.toNat →
      Exit limits total (.fail (.tooManyGroups 1 total limits.dispatchLimit))
  | layers : 0 < total.toNat → 0 < limits.dispatchLimit.toNat →
      Word.count < total.toNat + limits.layer total.toNat →
      Exit limits total (.fail (.tooManyGroups 2 total limits.dispatchLimit))
  | deep {z : Word} : 0 < total.toNat → 0 < limits.dispatchLimit.toNat →
      total.toNat ⌈/⌉ limits.layer total.toNat = z.toNat → limits.dispatchLimit.toNat < z.toNat →
      Exit limits total (.failWith (.undistributable total limits.dispatchLimit)
        (.tooManyGroups 2 z limits.dispatchLimit))
  | distributed {dispatch : Dispatch} : total ≠ 0 → limits.Distributes total.toNat dispatch →
      Exit limits total (.ok dispatch)

-- Past both quotients and the limit of z, no component is refused.
theorem distributes_of_components {rows z : Word} (allowed : limits.dispatchLimit ≠ 0)
    (first : total.ceilDiv? (min total limits.dispatchLimit) = some rows)
    (second : total.ceilDiv? (min total limits.dispatchLimit * min rows limits.dispatchLimit) = some z)
    (within : z ≤ limits.dispatchLimit) :
    ∃ dispatch, limits.Distributes total.toNat dispatch ∧
      (do return ⟨← Dispatch.component 0 (min total limits.dispatchLimit),
        ← Dispatch.component 1 (min rows limits.dispatchLimit), ← Dispatch.component 2 z⟩ :
          Except Refusal Dispatch) = .ok dispatch := by
  obtain ⟨dispatch, answered⟩ := Dispatch.components_of_le (limits.min_dispatchLimit_le total)
    (limits.min_dispatchLimit_le rows) (UInt64.le_trans within limits.dispatchLimit_le)
  obtain ⟨x, y, z_eq⟩ := Dispatch.components_eq_ok_iff.mp answered
  obtain ⟨_, fits, layered⟩ := Word.ceilDiv?_eq_some_iff.mp second
  rw [toNat_width] at x
  rw [toNat_height first] at y
  have product : limits.layer total.toNat = dispatch.x.toNat * dispatch.y.toNat := by rw [layer, x, y]
  rw [toNat_layer first, product] at fits layered
  exact ⟨dispatch, {
    limit_pos := Word.toNat_pos allowed
    x_eq := x
    y_eq := by rw [y, x]; rfl
    z_eq := by rw [z_eq, layered]
    z_le := z_eq ▸ UInt64.le_iff_toNat_le.mp within
    fits }, answered⟩

theorem distribute_exit (limits : Limits) (total : Word) : limits.Exit total (limits.distribute total) := by
  unfold distribute
  split
  next zero => exact .nothing zero
  next nonzero =>
    have asked := Word.toNat_pos nonzero
    dsimp only
    split
    next closed => exact .closed asked (congrArg UInt64.toNat closed)
    next allowed =>
      have positive := Word.toNat_pos allowed
      split
      next refused =>
        rcases Word.ceilDiv?_eq_none_iff.mp refused with zero | large
        · have width := width_pos asked positive
          rw [← toNat_width, zero] at width
          contradiction
        · exact .rows asked positive (toNat_width limits total ▸ large)
      next rows first =>
        split
        next refused =>
          rcases Word.ceilDiv?_eq_none_iff.mp refused with zero | large
          · have layer := layer_pos asked positive
            rw [← toNat_layer first, zero] at layer
            contradiction
          · exact .layers asked positive (toNat_layer first ▸ large)
        next z second =>
          obtain ⟨_, _, layered⟩ := Word.ceilDiv?_eq_some_iff.mp second
          split
          next deep =>
            exact .deep asked positive (toNat_layer first ▸ layered) (UInt64.lt_iff_toNat_lt.mp deep)
          next within =>
            obtain ⟨dispatch, distributes, answered⟩ :=
              distributes_of_components allowed first second (UInt64.not_lt.mp within)
            rw [answered]
            exact .distributed nonzero distributes

theorem distributes_of_outcome (positive : total ≠ 0)
    (distributed : (limits.distribute total).outcome = .ok dispatch) :
    limits.Distributes total.toNat dispatch := by
  have exit := limits.distribute_exit total
  generalize limits.distribute total = result at exit distributed
  cases exit with
  | nothing zero => contradiction
  | closed | rows | layers | deep => simp at distributed
  | distributed _ distributes =>
    cases distributed
    exact distributes

namespace Distributes

variable {groups : Nat}

theorem width_eq (distributes : limits.Distributes groups dispatch) : limits.width groups = dispatch.x.toNat :=
  distributes.x_eq.symm

theorem height_eq (distributes : limits.Distributes groups dispatch) :
    limits.height groups = dispatch.y.toNat := by
  rw [height, distributes.width_eq, distributes.y_eq]

theorem layer_eq (distributes : limits.Distributes groups dispatch) :
    limits.layer groups = dispatch.x.toNat * dispatch.y.toNat := by
  rw [layer, distributes.width_eq, distributes.height_eq]

theorem layer_pos (positive : 0 < groups) (distributes : limits.Distributes groups dispatch) :
    0 < dispatch.x.toNat * dispatch.y.toNat :=
  distributes.layer_eq ▸ Limits.layer_pos positive distributes.limit_pos

theorem x_pos (positive : 0 < groups) (distributes : limits.Distributes groups dispatch) : 0 < dispatch.x.toNat :=
  Nat.pos_of_mul_pos_right (distributes.layer_pos positive)

theorem y_pos (positive : 0 < groups) (distributes : limits.Distributes groups dispatch) : 0 < dispatch.y.toNat :=
  Nat.pos_of_mul_pos_left (distributes.layer_pos positive)

theorem covers (positive : 0 < groups) (distributes : limits.Distributes groups dispatch) :
    groups ≤ dispatch.x.toNat * dispatch.y.toNat * dispatch.z.toNat := by
  rw [distributes.z_eq]
  exact Word.le_mul_ceilDiv groups (distributes.layer_pos positive)

theorem volume_lt_add (positive : 0 < groups) (distributes : limits.Distributes groups dispatch) :
    dispatch.x.toNat * dispatch.y.toNat * dispatch.z.toNat < groups + dispatch.x.toNat * dispatch.y.toNat := by
  rw [distributes.z_eq]
  exact Word.mul_ceilDiv_lt_add groups (distributes.layer_pos positive)

-- The quotient for z refuses the same sum that bounds the box.
theorem volume_lt (positive : 0 < groups) (distributes : limits.Distributes groups dispatch) :
    dispatch.x.toNat * dispatch.y.toNat * dispatch.z.toNat < Word.count := by
  have above := distributes.volume_lt_add positive
  have layer := distributes.layer_pos positive
  have fits := distributes.fits
  omega

theorem z_pos (positive : 0 < groups) (distributes : limits.Distributes groups dispatch) : 0 < dispatch.z.toNat :=
  Nat.pos_of_mul_pos_left (Nat.lt_of_lt_of_le positive (distributes.covers positive))

theorem le_limit (distributes : limits.Distributes groups dispatch) :
    ∀ count ∈ dispatch.toList, count ≤ limits.dispatchLimit.toNat := by
  have x : dispatch.x.toNat ≤ limits.dispatchLimit.toNat := distributes.x_eq ▸ Nat.min_le_right _ _
  have y : dispatch.y.toNat ≤ limits.dispatchLimit.toNat := distributes.y_eq ▸ Nat.min_le_right _ _
  simpa [Dispatch.toList] using ⟨x, y, distributes.z_le⟩

end Distributes

/-- A distribution that succeeds keeps every component positive and within the limit. It covers the
groups asked for by less than one more layer, in a box whose positions do not wrap: each group asked
for has exactly one id in it. -/
theorem distribute_covers (positive : 0 < total)
    (distributed : (limits.distribute total).outcome = .ok dispatch) :
    (∀ count ∈ dispatch.toList, 1 ≤ count ∧ count ≤ min limits.maxGroupsPerDim.toNat 4294967295) ∧
      dispatch.x.toNat * dispatch.y.toNat * dispatch.z.toNat < Word.count ∧
      total.toNat ≤ dispatch.x.toNat * dispatch.y.toNat * dispatch.z.toNat ∧
      dispatch.x.toNat * dispatch.y.toNat * dispatch.z.toNat <
        total.toNat + dispatch.x.toNat * dispatch.y.toNat ∧
      ∀ group < total, ∃! id, Inside dispatch.extent id ∧ linearize dispatch.extent id = group := by
  have groups := UInt64.lt_iff_toNat_lt.mp positive
  have distributes := distributes_of_outcome (UInt64.pos_iff_ne_zero.mp positive) distributed
  have volume : dispatch.extent.volume = dispatch.x.toNat * dispatch.y.toNat * dispatch.z.toNat := by
    rw [Dispatch.volume_extent, Nat.mul_comm dispatch.y.toNat, Nat.mul_comm]
  refine ⟨fun count member => ⟨?_, ?_⟩, distributes.volume_lt groups, distributes.covers groups,
    distributes.volume_lt_add groups, fun group below => ?_⟩
  · have x := distributes.x_pos groups
    have y := distributes.y_pos groups
    have z := distributes.z_pos groups
    simp only [Dispatch.toList, List.mem_cons, List.not_mem_nil, or_false] at member
    rcases member with rfl | rfl | rfl <;> assumption
  · rw [← toNat_dispatchLimit]
    exact distributes.le_limit count member
  · apply existsUnique_linearize_eq
    · rw [volume]
      exact distributes.volume_lt groups
    · rw [volume]
      exact Nat.lt_of_lt_of_le (UInt64.lt_iff_toNat_lt.mp below) (distributes.covers groups)

theorem distribute_covers_second_layer :
    (0 : Word) < 17 ∧ ({ maxGroupsPerDim := 4 } : Limits).distribute 17 = .ok ⟨4, 4, 2⟩ ∧
      ∀ group < (17 : Word), ∃! id, Inside (Dispatch.extent ⟨4, 4, 2⟩) id ∧
        linearize (Dispatch.extent ⟨4, 4, 2⟩) id = group := by
  have distributed : ({ maxGroupsPerDim := 4 } : Limits).distribute 17 = .ok ⟨4, 4, 2⟩ := by decide
  have covered := distribute_covers (by decide) (congrArg Traced.outcome distributed)
  exact ⟨by decide, distributed, covered.2.2.2.2⟩

end Limits

end LaunchGeometry
