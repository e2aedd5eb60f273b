import LaunchGeometry.Proofs.RowMajor.Rank
import Mathlib.Data.List.Basic

/-! The points of an extent in row-major order.

A point precedes another if it is smaller in the first dimension in which they
differ. Inside an extent this is the order of ranks, and listing every point
dimension by dimension lists the ranks from zero on. The order does not depend
on the extent, so that the points of a smaller extent are a filtered list.
-/

set_option autoImplicit false

namespace LaunchGeometry.Coords

variable {D : Nat} {extent inner outer : Extent D} {point other : Point D}

/-- The lexicographic order, in which the first component is the most significant. -/
def Precedes (point other : Point D) : Prop :=
  ∃ dim, point dim < other dim ∧ ∀ earlier < dim, point earlier = other earlier

theorem precedes_cons_iff {component digit : Word} {later tail : Point D} :
    Precedes (cons component later) (cons digit tail) ↔
      component < digit ∨ component = digit ∧ Precedes later tail := by
  unfold Precedes
  constructor
  · intro precedes
    obtain ⟨dim, less, equal⟩ := precedes
    cases dim using Fin.cases with
    | zero => exact .inl less
    | succ dim =>
      refine .inr ⟨equal 0 (Fin.succ_pos dim), dim, less, ?_⟩
      intro earlier before
      exact equal earlier.succ (Fin.succ_lt_succ_iff.mpr before)
  · intro precedes
    rcases precedes with less | ⟨same, dim, less, equal⟩
    · exact ⟨0, less, fun earlier before => absurd before (Fin.not_lt_zero earlier)⟩
    · subst same
      refine ⟨dim.succ, less, ?_⟩
      intro earlier before
      cases earlier using Fin.cases with
      | zero => rfl
      | succ earlier => exact equal earlier (Fin.succ_lt_succ_iff.mp before)

theorem not_precedes_self (point : Point D) : ¬ Precedes point point :=
  fun ⟨_, less, _⟩ => UInt64.lt_irrefl _ less

theorem Precedes.asymm (precedes : Precedes point other) : ¬ Precedes other point := by
  obtain ⟨dim, less, equal⟩ := precedes
  intro ⟨place, greater, same⟩
  rcases Nat.lt_trichotomy dim.val place.val with before | here | after
  · exact UInt64.lt_irrefl _ (same dim before ▸ less)
  · obtain rfl : dim = place := Fin.ext here
    exact UInt64.lt_asymm less greater
  · exact UInt64.lt_irrefl _ (equal place after ▸ greater)

theorem rank_lt_rank_iff (inside : Inside extent point) (within : Inside extent other) :
    rank extent point < rank extent other ↔ Precedes point other := by
  induction extent using inductionOn with
  | nil => exact iff_of_false (Nat.lt_irrefl 0) fun ⟨dim, _⟩ => dim.elim0
  | cons first rest ih =>
    cases point using consCases with
    | cons component later =>
      cases other using consCases with
      | cons digit tail =>
        have inside := (inside_cons_iff.mp inside).2
        have within := (inside_cons_iff.mp within).2
        have low := rank_lt_volume inside
        have high := rank_lt_volume within
        rw [precedes_cons_iff, ← ih inside within, rank_cons, rank_cons, UInt64.lt_iff_toNat_lt,
          ← UInt64.toNat_inj]
        -- A larger leading component outweighs every rank of the rest.
        rcases Nat.lt_trichotomy component.toNat digit.toNat with less | same | greater
        · have row := Nat.mul_le_mul_right rest.volume (Nat.succ_le_of_lt less)
          rw [Nat.succ_mul] at row
          exact iff_of_true (by omega) (.inl less)
        · rw [same]
          omega
        · have row := Nat.mul_le_mul_right rest.volume (Nat.succ_le_of_lt greater)
          rw [Nat.succ_mul] at row
          exact iff_of_false (by omega) (by omega)

def points : {D : Nat} → Extent D → List (Point D)
  | 0, _ => [nil]
  | _ + 1, extent =>
    (List.range extent.head.toNat).flatMap fun component =>
      (points extent.tail).map (cons (UInt64.ofNat component))

theorem points_cons (first : Word) (rest : Extent D) :
    points (cons first rest) = (List.range first.toNat).flatMap fun component =>
      (points rest).map (cons (UInt64.ofNat component)) := rfl

theorem toNat_ofNat_of_lt {component : Nat} {bound : Word} (below : component < bound.toNat) :
    (UInt64.ofNat component).toNat = component := by
  rw [UInt64.toNat_ofNat', Nat.mod_eq_of_lt (Nat.lt_trans below (Word.toNat_lt bound))]

theorem mem_points_iff : point ∈ points extent ↔ Inside extent point := by
  induction extent using inductionOn with
  | nil => exact iff_of_true (List.mem_singleton.mpr (eq_nil point)) (fun dim => dim.elim0)
  | cons first rest ih =>
    cases point using consCases with
    | cons component later =>
      simp only [points_cons, List.mem_flatMap, List.mem_range, List.mem_map, inside_cons_iff, cons_inj]
      constructor
      · intro listed
        obtain ⟨number, below, tail, member, rfl, rfl⟩ := listed
        refine ⟨?_, ih.mp member⟩
        rw [UInt64.lt_iff_toNat_lt, toNat_ofNat_of_lt below]
        exact below
      · intro within
        exact ⟨component.toNat, UInt64.lt_iff_toNat_lt.mp within.1, later, ih.mpr within.2,
          UInt64.ofNat_toNat, rfl⟩

theorem flatMap_range_row (rows width : Nat) :
    ((List.range rows).flatMap fun row => (List.range width).map (row * width + ·)) =
      List.range (rows * width) := by
  induction rows with
  | zero => simp
  | succ rows ih =>
    rw [List.range_succ, List.flatMap_append, ih, Nat.succ_mul, List.range_add]
    simp

-- Numbering the listed points needs no arithmetic on single points: each row continues the ranks
-- where the row before it ends.
theorem map_rank_points (extent : Extent D) :
    (points extent).map (rank extent) = List.range extent.volume := by
  induction extent using inductionOn with
  | nil => rfl
  | cons first rest ih =>
    rw [points_cons, List.map_flatMap, volume_cons, ← flatMap_range_row, ← ih]
    apply List.flatMap_congr
    intro component member
    have below := toNat_ofNat_of_lt (List.mem_range.mp member)
    simp [below]

@[simp] theorem length_points (extent : Extent D) : (points extent).length = extent.volume := by
  simpa using congrArg List.length (map_rank_points extent)

theorem pairwise_points (extent : Extent D) : (points extent).Pairwise Precedes := by
  have ranks : ((points extent).map (rank extent)).Pairwise (· < ·) :=
    map_rank_points extent ▸ List.pairwise_lt_range
  rw [List.pairwise_map] at ranks
  exact ranks.imp_of_mem fun point other =>
    (rank_lt_rank_iff (mem_points_iff.mp point) (mem_points_iff.mp other)).mp

theorem nodup_points (extent : Extent D) : (points extent).Nodup := by
  apply (pairwise_points extent).imp
  intro point other precedes same
  subst same
  exact not_precedes_self point precedes

/-- A smaller extent takes its points out of a larger one without changing their order. The ranks of
a point in the two extents are unrelated, so that only the order of points connects the lists. -/
theorem filter_points (within : ∀ dim, inner dim ≤ outer dim) :
    (points outer).filter (fun point => Inside inner point) = points inner := by
  have ascending := (pairwise_points outer).filter fun point => Inside inner point
  have different := (nodup_points outer).filter fun point => Inside inner point
  refine List.Perm.eq_of_pairwise ?_ ascending (pairwise_points inner) ?_
  · intro point other _ _ precedes follows
    exact absurd follows precedes.asymm
  · rw [List.perm_ext_iff_of_nodup different (nodup_points inner)]
    intro point
    rw [List.mem_filter, mem_points_iff, mem_points_iff, decide_eq_true_iff]
    refine ⟨And.right, fun inside => ⟨fun dim => ?_, inside⟩⟩
    exact UInt64.lt_of_lt_of_le (inside dim) (within dim)

theorem volume_le_volume (within : ∀ dim, inner dim ≤ outer dim) : inner.volume ≤ outer.volume := by
  rw [← length_points, ← length_points, ← filter_points within]
  exact List.length_filter_le _ _

theorem getElem?_points_rank (inside : Inside extent point) :
    (points extent)[rank extent point]? = some point := by
  obtain ⟨position, bound, here⟩ := List.mem_iff_getElem.mp (mem_points_iff.mpr inside)
  have ranked : (points extent)[position]?.map (rank extent) = some position := by
    rw [← List.getElem?_map, map_rank_points]
    exact List.getElem?_range (length_points extent ▸ bound)
  rw [List.getElem?_eq_getElem bound, here, Option.map_some, Option.some_inj] at ranked
  rw [ranked, List.getElem?_eq_getElem bound, here]

end LaunchGeometry.Coords
