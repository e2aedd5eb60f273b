import LaunchGeometry.Proofs.Limits.Capacity

/-! The order in which a distribution fills x, y and z.

A row and a layer each hold all groups that are asked for or are filled to the limit, so that y and z are
not begun before. Fewer groups have a row and a layer that are no larger, and a smaller one that is not full
holds all of them. No dimension shrinks when more groups are asked for, and no room is missing for fewer.
-/

set_option autoImplicit false

namespace LaunchGeometry.Limits

variable {limits : Limits} {total fewer : Word} {dispatch : Dispatch} {groups lesser : Nat}

/-- Groups fill x up to a limit, then y, and then take the fewest layers of x and y that hold them. -/
structure FillsInOrder (most groups : Nat) (dispatch : Dispatch) : Prop where
  x_eq : dispatch.x.toNat = min groups most
  y_eq : dispatch.y.toNat = min (groups ⌈/⌉ dispatch.x.toNat) most
  z_least : IsLeast {layers | groups ≤ dispatch.x.toNat * dispatch.y.toNat * layers} dispatch.z.toNat
  x_full : 1 < dispatch.y.toNat → dispatch.x.toNat = most
  y_full : 1 < dispatch.z.toNat → dispatch.x.toNat = most ∧ dispatch.y.toNat = most

def depth (limits : Limits) (groups : Nat) : Nat := groups ⌈/⌉ limits.layer groups

namespace Distributes

theorem depth_eq (distributes : limits.Distributes groups dispatch) : limits.depth groups = dispatch.z.toNat := by
  rw [depth, distributes.layer_eq, distributes.z_eq]

theorem x_full_of_one_lt_y (positive : 0 < groups) (distributes : limits.Distributes groups dispatch)
    (rows : 1 < dispatch.y.toNat) : dispatch.x.toNat = limits.dispatchLimit.toNat := by
  rw [← distributes.width_eq]
  rcases limits.le_width_or_full groups with held | full
  · have single := Word.ceilDiv_le_one (width_pos positive distributes.limit_pos) held
    have bound : limits.height groups ≤ groups ⌈/⌉ limits.width groups := Nat.min_le_left ..
    rw [distributes.height_eq] at bound
    omega
  · exact full

theorem y_full_of_one_lt_z (positive : 0 < groups) (distributes : limits.Distributes groups dispatch)
    (layers : 1 < dispatch.z.toNat) :
    dispatch.x.toNat = limits.dispatchLimit.toNat ∧ dispatch.y.toNat = limits.dispatchLimit.toNat := by
  rw [← distributes.width_eq, ← distributes.height_eq]
  rcases le_layer_or_full positive distributes.limit_pos with held | full
  · rw [distributes.layer_eq] at held
    have single := Word.ceilDiv_le_one (distributes.layer_pos positive) held
    rw [← distributes.z_eq] at single
    omega
  · exact full

theorem fillsInOrder (positive : 0 < groups) (distributes : limits.Distributes groups dispatch) :
    FillsInOrder limits.dispatchLimit.toNat groups dispatch where
  x_eq := distributes.x_eq
  y_eq := distributes.y_eq
  z_least := distributes.z_eq ▸ Word.isLeast_ceilDiv groups (distributes.layer_pos positive)
  x_full := distributes.x_full_of_one_lt_y positive
  y_full := distributes.y_full_of_one_lt_z positive

end Distributes

section

variable (asked : 0 < lesser) (positive : 0 < limits.dispatchLimit.toNat) (below : lesser ≤ groups)

include below

theorem width_mono : limits.width lesser ≤ limits.width groups := min_le_min_right _ below

include asked positive

theorem height_mono : limits.height lesser ≤ limits.height groups := by
  have more := Nat.lt_of_lt_of_le asked below
  apply min_le_min_right
  apply Word.ceilDiv_le_ceilDiv below more (width_pos asked positive) (width_pos more positive)
  refine (limits.le_width_or_full lesser).imp_right fun full => ?_
  rw [full]
  exact limits.width_le groups

theorem layer_mono : limits.layer lesser ≤ limits.layer groups :=
  Nat.mul_le_mul (width_mono below) (height_mono asked positive below)

theorem depth_mono : limits.depth lesser ≤ limits.depth groups := by
  have more := Nat.lt_of_lt_of_le asked below
  apply Word.ceilDiv_le_ceilDiv below more (layer_pos asked positive) (layer_pos more positive)
  refine (le_layer_or_full asked positive).imp_right fun ⟨wide, high⟩ => ?_
  rw [layer, layer, wide, high]
  exact Nat.mul_le_mul (limits.width_le groups) (limits.height_le groups)

end

@[simp] theorem distribute_zero (limits : Limits) : limits.distribute 0 = .ok ⟨0, 0, 0⟩ := rfl

theorem exists_outcome_of_le (asked : 0 < fewer.toNat) (below : fewer.toNat ≤ total.toNat)
    (distributes : limits.Distributes total.toNat dispatch) :
    ∃ smaller, (limits.distribute fewer).outcome = .ok smaller := by
  have more := Nat.lt_of_lt_of_le asked below
  have layers := layer_mono asked distributes.limit_pos below
  have room := distributes.add_layer_le more
  exact exists_outcome_iff.mpr ⟨Nat.le_trans below (distributes.le_cube more), by omega⟩

theorem distribute_mono (below : fewer ≤ total) (distributed : (limits.distribute total).outcome = .ok dispatch) :
    ∃ smaller, (limits.distribute fewer).outcome = .ok smaller ∧
      smaller.x ≤ dispatch.x ∧ smaller.y ≤ dispatch.y ∧ smaller.z ≤ dispatch.z := by
  have below := UInt64.le_iff_toNat_le.mp below
  by_cases none : fewer = 0
  · subst none
    exact ⟨⟨0, 0, 0⟩, congrArg Traced.outcome limits.distribute_zero, by simp [UInt32.le_iff_toNat_le]⟩
  · have asked := Word.toNat_pos none
    have nonzero : total ≠ 0 := by
      rintro rfl
      exact Nat.not_lt.mpr below asked
    have distributes := distributes_of_outcome nonzero distributed
    obtain ⟨smaller, answered⟩ := exists_outcome_of_le asked below distributes
    have lower := distributes_of_outcome none answered
    refine ⟨smaller, answered, ?_, ?_, ?_⟩ <;> rw [UInt32.le_iff_toNat_le]
    · rw [← lower.width_eq, ← distributes.width_eq]
      exact width_mono below
    · rw [← lower.height_eq, ← distributes.height_eq]
      exact height_mono asked distributes.limit_pos below
    · rw [← lower.depth_eq, ← distributes.depth_eq]
      exact depth_mono asked distributes.limit_pos below

/-- A distribution that succeeds fills x before y and y before z, each up to the limit, and takes no more layers
than it needs. Any smaller number of groups is distributed too, over no more groups along any dimension. -/
theorem distribute_fills_in_order (limits : Limits) :
    (∀ total dispatch, 0 < total → (limits.distribute total).outcome = .ok dispatch →
      FillsInOrder (min limits.maxGroupsPerDim.toNat 4294967295) total.toNat dispatch) ∧
    ∀ fewer total dispatch, fewer ≤ total → (limits.distribute total).outcome = .ok dispatch →
      ∃ smaller, (limits.distribute fewer).outcome = .ok smaller ∧
        smaller.x ≤ dispatch.x ∧ smaller.y ≤ dispatch.y ∧ smaller.z ≤ dispatch.z := by
  constructor
  · intro total dispatch positive distributed
    have nonzero := UInt64.pos_iff_ne_zero.mp positive
    rw [← toNat_dispatchLimit]
    exact (distributes_of_outcome nonzero distributed).fillsInOrder (Word.toNat_pos nonzero)
  · intro fewer total dispatch below distributed
    exact distribute_mono below distributed

theorem distribute_fills_in_order_seventeen :
    let limits : Limits := { maxGroupsPerDim := 4 }
    (limits.distribute 17).outcome = .ok ⟨4, 4, 2⟩ ∧ FillsInOrder 4 17 ⟨4, 4, 2⟩ ∧
      (limits.distribute 5).outcome = .ok ⟨4, 2, 1⟩ ∧
      ∃ smaller : Dispatch, (limits.distribute 5).outcome = .ok smaller ∧
        smaller.x ≤ 4 ∧ smaller.y ≤ 4 ∧ smaller.z ≤ 2 := by
  intro limits
  have distributed : (limits.distribute 17).outcome = .ok ⟨4, 4, 2⟩ := by decide
  obtain ⟨fills, fewer⟩ := distribute_fills_in_order limits
  exact ⟨distributed, fills 17 _ (by decide) distributed, by decide, fewer 5 17 _ (by decide) distributed⟩

end LaunchGeometry.Limits
