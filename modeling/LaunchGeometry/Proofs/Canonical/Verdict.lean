import LaunchGeometry.Proofs.Canonical.Construction
import LaunchGeometry.Proofs.Canonical.Launch
import LaunchGeometry.Proofs.Launch.Verdict

/-! Checking a launch in canonical form.

The canonical form has one group along each dimension that is padding. Under limits
that allow one group it is answered as the launch is, and a dimension that has too
many groups is numbered from further ahead. Under a limit of zero groups the padding
itself is refused, although the launch may have no groups.
-/

set_option autoImplicit false

namespace LaunchGeometry

open Coords

variable {D : Nat}

/-- The limits allow the group along every dimension that a canonical form has as padding. -/
def Limits.AllowPadding (D : Nat) (limits : Limits) : Prop := D = 3 ∨ 1 ≤ limits.maxGroupsPerDim

instance (limits : Limits) : Decidable (limits.AllowPadding D) :=
  inferInstanceAs (Decidable (D = 3 ∨ 1 ≤ limits.maxGroupsPerDim))

namespace Launch

variable (fits : D ≤ 3) {launch : Launch D} {limits : Limits} {size : Nat} {outcome : Except Refusal Unit}

theorem groupCounts_embed_apply_of_lt (launch : Launch D) {dim : Fin 3} (leading : dim.val < 3 - D) :
    (launch.embed fits).groupCounts dim = 1 := by
  rw [groupCounts_embed, embedExtent_apply_of_lt fits launch.groupCounts leading]

theorem groupCounts_embed_canonicalDim (launch : Launch D) (dim : Fin D) :
    (launch.embed fits).groupCounts (canonicalDim fits dim) = launch.groupCounts dim := by
  rw [groupCounts_embed, embedExtent_canonicalDim, component_coords]

theorem forall_groupCounts_embed_le_iff {max : Word} :
    (∀ dim, (launch.embed fits).groupCounts dim ≤ max) ↔
      (∀ dim, launch.groupCounts dim ≤ max) ∧ (D = 3 ∨ 1 ≤ max) := by
  rw [groupCounts_embed]
  exact forall_embed_apply_iff fits (· ≤ max) 1

theorem Verdict.embed (padding : limits.AllowPadding D) (verdict : launch.Verdict limits size outcome) :
    (launch.embed fits).Verdict limits size (outcome.mapError (Refusal.shiftDim (3 - D))) := by
  cases verdict with
  | groupTooLarge large reported => exact .groupTooLarge large reported
  | @tooManyGroups dim within many before =>
    have counted := launch.groupCounts_embed_canonicalDim fits dim
    have first : ∀ earlier < canonicalDim fits dim,
        (launch.embed fits).groupCounts earlier ≤ limits.maxGroupsPerDim := by
      intro earlier less
      cases earlier using canonicalCases fits with
      | leading earlier below =>
        rw [launch.groupCounts_embed_apply_of_lt fits below]
        exact padding.resolve_left (by omega)
      | inner earlier =>
        rw [groupCounts_embed_canonicalDim]
        exact before earlier ((canonicalDim_lt_iff fits).mp less)
    have refused := Verdict.tooManyGroups within (counted.symm ▸ many) first
    rwa [counted] at refused
  | accepted within allowed =>
    exact .accepted within ((forall_groupCounts_embed_le_iff fits).mpr ⟨allowed, padding⟩)

theorem check_embed (padding : limits.AllowPadding D) :
    ((launch.embed fits).check limits).outcome =
      (launch.check limits).outcome.mapError (Refusal.shiftDim (3 - D)) := by
  apply check_outcome_eq
  rw [groupSize_embed]
  exact (launch.check_verdict limits).embed fits padding

theorem check_embed_of_not_allowPadding (within : launch.groupSize ≤ limits.maxGroupSize)
    (refused : ¬ limits.AllowPadding D) :
    ((launch.embed fits).check limits).outcome = .error (.tooManyGroups 0 1 limits.maxGroupsPerDim) := by
  obtain ⟨padded, zero⟩ := not_or.mp refused
  have leading : (0 : Fin 3).val < 3 - D := Nat.sub_pos_of_lt (Nat.lt_of_le_of_ne fits padded)
  have counted := launch.groupCounts_embed_apply_of_lt fits leading
  apply check_outcome_eq
  rw [groupSize_embed, ← counted]
  refine .tooManyGroups (UInt64.le_iff_toNat_le.mp within) ?_ fun earlier less => absurd less (Fin.not_lt_zero earlier)
  rw [counted]
  exact UInt64.not_le.mp zero

/-- The canonical form passes a check exactly if the launch does and the limits allow the padding. A group
that is too large is refused alike. A dimension with too many groups is refused with the same numbers
under its place in the canonical form, if the limits allow the padding, and otherwise the padding is. -/
theorem check_embed_iff (launch : Launch D) (limits : Limits) :
    (((launch.embed fits).check limits).outcome = .ok () ↔
      (launch.check limits).outcome = .ok () ∧ limits.AllowPadding D) ∧
    (∀ size max, (launch.check limits).outcome = .error (.groupTooLarge size max) →
      ((launch.embed fits).check limits).outcome = .error (.groupTooLarge size max)) ∧
    (∀ dim groups max, (launch.check limits).outcome = .error (.tooManyGroups dim groups max) →
      limits.AllowPadding D →
        ((launch.embed fits).check limits).outcome = .error (.tooManyGroups (3 - D + dim) groups max)) ∧
    (launch.groupSize ≤ limits.maxGroupSize → ¬ limits.AllowPadding D →
      ((launch.embed fits).check limits).outcome = .error (.tooManyGroups 0 1 limits.maxGroupsPerDim)) := by
  refine ⟨?_, ?_, ?_, check_embed_of_not_allowPadding fits⟩
  · rw [check_outcome_eq_ok_iff, check_outcome_eq_ok_iff, groupSize_embed, forall_groupCounts_embed_le_iff,
      and_assoc]
    rfl
  · intro size max refused
    have verdict := launch.check_verdict limits
    rw [refused] at verdict
    cases verdict with
    | groupTooLarge large reported =>
      apply check_outcome_eq
      rw [groupSize_embed]
      exact .groupTooLarge large reported
  · intro dim groups max refused padding
    rw [check_embed fits padding, refused]
    rfl

theorem check_embed_iff_second :
    let fits : 2 ≤ 3 := by decide
    let launch : Launch 2 := ⟨⟨[6, 8], rfl⟩, ⟨[2, 2], rfl⟩, ⟨[5, 0], rfl⟩, by decide, by decide⟩
    let empty : Launch 2 := ⟨⟨[0, 0], rfl⟩, ⟨[2, 2], rfl⟩, ⟨[5, 0], rfl⟩, by decide, by decide⟩
    let small : Limits := { maxGroupSize := 3 }
    let three : Limits := { maxGroupsPerDim := 3 }
    let zero : Limits := { maxGroupsPerDim := 0 }
    (launch.check small).outcome = .error (.groupTooLarge 4 3) ∧
      ((launch.embed fits).check small).outcome = .error (.groupTooLarge 4 3) ∧
      (launch.check three).outcome = .error (.tooManyGroups 1 4 3) ∧
      ((launch.embed fits).check three).outcome = .error (.tooManyGroups 2 4 3) ∧
      (empty.check zero).outcome = .ok () ∧
      ((empty.embed fits).check zero).outcome = .error (.tooManyGroups 0 1 0) := by
  intro fits launch empty small three zero
  have large : (launch.check small).outcome = .error (.groupTooLarge 4 3) := by decide
  have many : (launch.check three).outcome = .error (.tooManyGroups 1 4 3) := by decide
  exact ⟨large, (check_embed_iff fits launch small).2.1 4 3 large,
    many, (check_embed_iff fits launch three).2.2.1 1 4 3 many (by decide),
    by decide, (check_embed_iff fits empty zero).2.2.2 (by decide) (by decide)⟩

end Launch

end LaunchGeometry
