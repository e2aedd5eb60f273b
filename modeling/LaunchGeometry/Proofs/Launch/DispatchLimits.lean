import LaunchGeometry.Proofs.Launch.Dispatch

/-! The limits of a dispatch.

A dispatch is limited twice. The device limits are compared with the groups of the
launch, and the width of a component with the groups of its canonical form. So no
limit is compared with the padding, which a limit of zero groups does not allow. And
a refusal for the width names a dimension of the device, which is numbered from the
last dimension of the launch on, where a refusal for a limit names one of the launch.
-/

set_option autoImplicit false

namespace LaunchGeometry

open Coords

variable {D : Nat}

namespace Coords

variable {max : Word} {coords : Coords D}

/-- The last dimension with a component above a bound. -/
def LastAbove (max : Word) (coords : Coords D) (dim : Fin D) : Prop :=
  max < coords dim ∧ ∀ later, dim < later → coords later ≤ max

instance (max : Word) (coords : Coords D) (dim : Fin D) : Decidable (LastAbove max coords dim) :=
  inferInstanceAs (Decidable (max < coords dim ∧ ∀ later, dim < later → coords later ≤ max))

theorem LastAbove.unique {dim other : Fin D} (last : LastAbove max coords dim)
    (second : LastAbove max coords other) : dim = other := by
  have notBefore : ¬ dim < other := fun less => UInt64.not_lt.mpr (last.2 other less) second.1
  have notAfter : ¬ other < dim := fun less => UInt64.not_lt.mpr (second.2 dim less) last.1
  exact Fin.le_antisymm (Fin.not_lt.mp notAfter) (Fin.not_lt.mp notBefore)

theorem lastAbove_embed_iff (fits : D ≤ 3) {pad : Word} (padding : pad ≤ max) {dim : Fin 3} :
    LastAbove max (embed fits pad coords) dim ↔
      ∃ own, dim = canonicalDim fits own ∧ LastAbove max coords own := by
  constructor
  · intro last
    obtain ⟨above, after⟩ := last
    cases dim using canonicalCases fits with
    | leading dim below =>
      rw [embed_apply_of_lt fits pad coords below] at above
      exact absurd padding (UInt64.not_le.mpr above)
    | inner own =>
      refine ⟨own, rfl, by simpa using above, fun later less => ?_⟩
      simpa using after (canonicalDim fits later) ((canonicalDim_lt_iff fits).mpr less)
  · rintro ⟨own, rfl, above, after⟩
    refine ⟨by simpa using above, fun later less => ?_⟩
    cases later using canonicalCases fits with
    | leading later below => rwa [embed_apply_of_lt fits pad coords below]
    | inner later => simpa using after later ((canonicalDim_lt_iff fits).mp less)

end Coords

namespace Dispatch

-- A component is made only where the later dimensions have one.
theorem ofGroups_exit (counts : Extent 3) :
    (∃ dim : Fin 3, LastAbove maxCount counts dim ∧
      ofGroups counts = .error (.tooManyGroups dim.rev (counts dim) maxCount)) ∨
    (∀ dim, counts dim ≤ maxCount) ∧ ∃ dispatch, ofGroups counts = .ok dispatch := by
  by_cases x : counts 2 ≤ maxCount
  · by_cases y : counts 1 ≤ maxCount
    · by_cases z : counts 0 ≤ maxCount
      · refine .inr ⟨fun dim => ?_, components_of_le x y z⟩
        match dim with
        | 0 => exact z
        | 1 => exact y
        | 2 => exact x
      · refine .inl ⟨0, ⟨UInt64.not_le.mp z, fun later less => ?_⟩, ?_⟩
        · match later with
          | 1 => exact y
          | 2 => exact x
        · simp only [ofGroups, component_of_le _ x, component_of_le _ y, component_of_not_le _ z]
          rfl
    · refine .inl ⟨1, ⟨UInt64.not_le.mp y, fun later less => ?_⟩, ?_⟩
      · match later with
        | 2 => exact x
      · simp only [ofGroups, component_of_le _ x, component_of_not_le _ y]
        rfl
  · refine .inl ⟨2, ⟨UInt64.not_le.mp x, fun later less => absurd less (Fin.not_lt.mpr later.le_last)⟩, ?_⟩
    simp only [ofGroups, component_of_not_le _ x]
    rfl

theorem ofGroups_eq_error_iff {counts : Extent 3} {refusal : Refusal} :
    ofGroups counts = .error refusal ↔
      ∃ dim : Fin 3, LastAbove maxCount counts dim ∧ refusal = .tooManyGroups dim.rev (counts dim) maxCount := by
  rcases ofGroups_exit counts with ⟨dim, last, ran⟩ | ⟨within, dispatch, ran⟩
  · rw [ran]
    constructor
    · intro refused
      exact ⟨dim, last, (Except.error.inj refused).symm⟩
    · rintro ⟨other, second, rfl⟩
      rw [last.unique second]
  · rw [ran]
    refine iff_of_false nofun ?_
    rintro ⟨dim, last, _⟩
    exact UInt64.not_lt.mpr (within dim) last.1

end Dispatch

namespace Launch

variable (fits : D ≤ 3) {launch : Launch D} {limits : Limits} {counts : Dispatch} {refusal : Refusal}

/-- The components of a dispatch are within the limit exactly if the limits allow the padding. Otherwise the
launch has no groups along any of its dimensions. -/
theorem dispatch_within_iff (dispatched : (launch.dispatch fits limits).outcome = .ok counts) :
    ((∀ count ∈ counts.toList, count ≤ limits.maxGroupsPerDim.toNat) ↔ limits.AllowPadding D) ∧
    (¬ limits.AllowPadding D → ∀ dim, launch.groupCounts dim = 0) := by
  obtain ⟨accepted, answered⟩ := (dispatch_outcome_eq_ok_iff fits).mp dispatched
  have allowed := (check_outcome_eq_ok_iff.mp accepted).2
  constructor
  · have listed : (∀ count ∈ counts.toList, count ≤ limits.maxGroupsPerDim.toNat) ↔
        ∀ dim, (launch.embed fits).groupCounts dim ≤ limits.maxGroupsPerDim := by
      rw [(dispatchComponents_eq_ok_iff fits).mp answered, ← groupCounts_embed]
      simp [mem_toList_iff, UInt64.le_iff_toNat_le]
    rw [listed, forall_groupCounts_embed_le_iff]
    exact and_iff_right allowed
  · intro padded dim
    by_contra positive
    have least : 1 ≤ launch.groupCounts dim := UInt64.le_iff_toNat_le.mpr (Word.toNat_pos positive)
    exact padded (.inr (UInt64.le_trans least (allowed dim)))

theorem dispatch_within_ten :
    let fits : 1 ≤ 3 := by decide
    let launch : Launch 1 := ⟨⟨[20], rfl⟩, ⟨[2], rfl⟩, ⟨[3], rfl⟩, by decide, by decide⟩
    let empty : Launch 1 := ⟨⟨[0], rfl⟩, ⟨[2], rfl⟩, ⟨[3], rfl⟩, by decide, by decide⟩
    let ten : Limits := { maxGroupsPerDim := 10 }
    let zero : Limits := { maxGroupsPerDim := 0 }
    (launch.dispatch fits ten).outcome = .ok ⟨10, 1, 1⟩ ∧
      (∀ count ∈ Dispatch.toList ⟨10, 1, 1⟩, count ≤ ten.maxGroupsPerDim.toNat) ∧
      (empty.dispatch fits zero).outcome = .ok ⟨0, 1, 1⟩ ∧ ∀ dim, empty.groupCounts dim = 0 := by
  intro fits launch empty ten zero
  have dispatched : (launch.dispatch fits ten).outcome = .ok ⟨10, 1, 1⟩ := by decide
  have nothing : (empty.dispatch fits zero).outcome = .ok ⟨0, 1, 1⟩ := by decide
  exact ⟨dispatched, (dispatch_within_iff fits dispatched).1.mpr (by decide),
    nothing, (dispatch_within_iff fits nothing).2 (by decide)⟩

/-- A launch without groups is dispatched under a limit of zero, with a group along y and one along z. -/
theorem dispatch_exceeds_zero :
    ∃ launch : Launch 1, (exact ⟨[0], rfl⟩ ⟨[1], rfl⟩).outcome = .ok launch ∧
      (launch.dispatch (by decide) { maxGroupsPerDim := 0 }).outcome = .ok ⟨0, 1, 1⟩ ∧
      ¬ ∀ count ∈ Dispatch.toList ⟨0, 1, 1⟩, count ≤ ({ maxGroupsPerDim := 0 } : Limits).maxGroupsPerDim.toNat :=
  ⟨⟨⟨[0], rfl⟩, ⟨[1], rfl⟩, ⟨[0], rfl⟩, by decide, by decide⟩, by decide, by decide, by decide⟩

theorem dispatchComponents_eq_error_iff :
    launch.dispatchComponents fits = .error refusal ↔
      ∃ dim : Fin D, LastAbove Dispatch.maxCount launch.groupCounts dim ∧
        refusal = .tooManyGroups dim.rev (launch.groupCounts dim) Dispatch.maxCount := by
  have renumbered (dim : Fin D) : (canonicalDim fits dim).rev.val = dim.rev.val := by
    simp only [canonicalDim, Fin.val_rev]
    omega
  refine Dispatch.ofGroups_eq_error_iff.trans ?_
  constructor
  · rintro ⟨place, padded, rfl⟩
    rw [groupCounts_embed] at padded
    obtain ⟨dim, rfl, last⟩ := (lastAbove_embed_iff fits (by decide)).mp padded
    exact ⟨dim, last, by rw [renumbered, groupCounts_embed_canonicalDim]⟩
  · rintro ⟨dim, last, rfl⟩
    refine ⟨canonicalDim fits dim, ?_, by rw [renumbered, groupCounts_embed_canonicalDim]⟩
    rw [groupCounts_embed]
    exact (lastAbove_embed_iff fits (by decide)).mpr ⟨dim, rfl, last⟩

/-- Why a dispatch has too many groups, with what the refusal reports. -/
inductive Excess (launch : Launch D) (limits : Limits) : Nat → Word → Word → Prop where
  | limit {dim : Fin D} : limits.maxGroupsPerDim < launch.groupCounts dim →
      (∀ earlier < dim, launch.groupCounts earlier ≤ limits.maxGroupsPerDim) →
      Excess launch limits dim (launch.groupCounts dim) limits.maxGroupsPerDim
  | width {dim : Fin D} : (∀ dim, launch.groupCounts dim ≤ limits.maxGroupsPerDim) →
      LastAbove Dispatch.maxCount launch.groupCounts dim →
      Excess launch limits dim.rev (launch.groupCounts dim) Dispatch.maxCount

/-- The launch has the reported number of groups along the named dimension, and it is too large. -/
def Attributed (launch : Launch D) (dim : Nat) (groups max : Word) : Prop :=
  ∃ named : dim < D, launch.groupCounts ⟨dim, named⟩ = groups ∧ max < groups

instance (launch : Launch D) (dim : Nat) (groups max : Word) : Decidable (launch.Attributed dim groups max) :=
  inferInstanceAs (Decidable (∃ named : dim < D, launch.groupCounts ⟨dim, named⟩ = groups ∧ max < groups))

theorem dispatch_eq_tooManyGroups_iff {dim : Nat} {groups max : Word} :
    (launch.dispatch fits limits).outcome = .error (.tooManyGroups dim groups max) ↔
      launch.groupSize ≤ limits.maxGroupSize ∧ launch.Excess limits dim groups max := by
  rw [dispatch_outcome_eq_error_iff]
  constructor
  · rintro (refused | ⟨accepted, refused⟩)
    · have verdict := launch.check_verdict limits
      rw [refused] at verdict
      cases verdict with
      | tooManyGroups within many before => exact ⟨UInt64.le_iff_toNat_le.mpr within, .limit many before⟩
    · obtain ⟨within, allowed⟩ := check_outcome_eq_ok_iff.mp accepted
      obtain ⟨own, last, same⟩ := (dispatchComponents_eq_error_iff fits).mp refused
      cases same
      exact ⟨within, .width allowed last⟩
  · rintro ⟨within, excess⟩
    cases excess with
    | limit many before =>
      exact .inl (check_outcome_eq (.tooManyGroups (UInt64.le_iff_toNat_le.mp within) many before))
    | @width own allowed last =>
      refine .inr ⟨check_outcome_eq_ok_iff.mpr ⟨within, allowed⟩, ?_⟩
      exact (dispatchComponents_eq_error_iff fits).mpr ⟨own, last, rfl⟩

theorem dispatch_attributed_iff :
    (∀ dim groups max, (launch.dispatch fits limits).outcome = .error (.tooManyGroups dim groups max) →
      launch.Attributed dim groups max) ↔
    ((launch.check limits).outcome = .ok () → ∀ dim, LastAbove Dispatch.maxCount launch.groupCounts dim →
      launch.groupCounts dim.rev = launch.groupCounts dim) := by
  constructor
  · intro attributed accepted dim last
    obtain ⟨within, allowed⟩ := check_outcome_eq_ok_iff.mp accepted
    have refused := (dispatch_eq_tooManyGroups_iff fits).mpr ⟨within, .width allowed last⟩
    obtain ⟨named, same, many⟩ := attributed _ _ _ refused
    exact same
  · intro mirrored dim groups max refused
    obtain ⟨within, excess⟩ := (dispatch_eq_tooManyGroups_iff fits).mp refused
    cases excess with
    | @limit own many before => exact ⟨own.isLt, rfl, many⟩
    | @width own allowed last =>
      have accepted := check_outcome_eq_ok_iff.mpr ⟨within, allowed⟩
      exact ⟨own.rev.isLt, mirrored accepted own last, last.1⟩

/-- A dispatch names the first of the launch's dimensions above the limit. If none is, it names the last
above the width of a component, numbered from the end. The names are right exactly if the mirror of that
dimension has as many groups, as in one dimension, or if the limit is no larger than the width. -/
theorem dispatch_attributes_iff (launch : Launch D) (limits : Limits) :
    (∀ dim groups max, (launch.dispatch fits limits).outcome = .error (.tooManyGroups dim groups max) ↔
      launch.groupSize ≤ limits.maxGroupSize ∧ launch.Excess limits dim groups max) ∧
    ((∀ dim groups max, (launch.dispatch fits limits).outcome = .error (.tooManyGroups dim groups max) →
        launch.Attributed dim groups max) ↔
      ((launch.check limits).outcome = .ok () → ∀ dim, LastAbove Dispatch.maxCount launch.groupCounts dim →
        launch.groupCounts dim.rev = launch.groupCounts dim)) ∧
    (D ≤ 1 ∨ limits.maxGroupsPerDim ≤ Dispatch.maxCount →
      ∀ dim groups max, (launch.dispatch fits limits).outcome = .error (.tooManyGroups dim groups max) →
        launch.Attributed dim groups max) := by
  refine ⟨fun dim groups max => dispatch_eq_tooManyGroups_iff fits, dispatch_attributed_iff fits, ?_⟩
  intro small
  apply (dispatch_attributed_iff fits).mpr
  intro accepted dim last
  rcases small with single | narrow
  · have middle : dim.rev = dim := Fin.ext (by rw [Fin.val_rev]; omega)
    rw [middle]
  · have allowed := (check_outcome_eq_ok_iff.mp accepted).2 dim
    exact absurd last.1 (UInt64.not_lt.mpr (UInt64.le_trans allowed narrow))

theorem dispatch_attributes_ends :
    let single : Launch 1 := ⟨⟨[12884901888], rfl⟩, ⟨[3], rfl⟩, ⟨[7], rfl⟩, by decide, by decide⟩
    let ends : Launch 3 :=
      ⟨⟨[4294967296, 0, 8589934592], rfl⟩, ⟨[1, 4, 2], rfl⟩, ⟨[0, 0, 0], rfl⟩, by decide, by decide⟩
    let limits : Limits := { maxGroupsPerDim := 18446744073709551615 }
    (single.dispatch (by decide) limits).outcome = .error (.tooManyGroups 0 4294967296 4294967295) ∧
      single.Attributed 0 4294967296 4294967295 ∧
      (ends.dispatch (by decide) limits).outcome = .error (.tooManyGroups 0 4294967296 4294967295) ∧
      ends.Attributed 0 4294967296 4294967295 := by
  intro single ends limits
  have refused : (single.dispatch (by decide) limits).outcome =
      .error (.tooManyGroups 0 4294967296 4294967295) := by decide
  have last : (ends.dispatch (by decide) limits).outcome =
      .error (.tooManyGroups 0 4294967296 4294967295) := by decide
  exact ⟨refused, (dispatch_attributes_iff (by decide) single limits).2.2 (.inl (by decide)) _ _ _ refused,
    last, (dispatch_attributes_iff (by decide) ends limits).2.1.mpr (by decide) _ _ _ last⟩

/-- The second of two dimensions is too wide, and the refusal names the first, which has one group. -/
theorem dispatch_names_other_dimension :
    ∃ launch : Launch 2, (exact ⟨[1, 4294967296], rfl⟩ ⟨[1, 1], rfl⟩).outcome = .ok launch ∧
      (launch.dispatch (by decide) { maxGroupsPerDim := 18446744073709551615 }).outcome =
        .error (.tooManyGroups 0 4294967296 4294967295) ∧
      launch.groupCounts 0 = 1 ∧ ¬ launch.Attributed 0 4294967296 4294967295 :=
  ⟨⟨⟨[1, 4294967296], rfl⟩, ⟨[1, 1], rfl⟩, ⟨[0, 0], rfl⟩, by decide, by decide⟩,
    by decide, by decide, by decide, by decide⟩

end Launch

end LaunchGeometry
