import LaunchGeometry.Coords.RowMajor
import Mathlib.Logic.ExistsUnique

/-! Exact row-major positions.

The rank of a point is its row-major position without wrapping. Ranks number the
points inside an extent from zero to its volume, each point once. The wrapping
position is the rank modulo the number of words, and taking digits off a number
answers the point whose rank is that number modulo the volume.
-/

set_option autoImplicit false

namespace LaunchGeometry.Coords

variable {D : Nat} {extent : Extent D} {point other : Point D}

def Inside (extent : Extent D) (point : Point D) : Prop := ∀ dim, point dim < extent dim

instance (extent : Extent D) (point : Point D) : Decidable (Inside extent point) :=
  inferInstanceAs (Decidable (∀ dim, point dim < extent dim))

theorem inside_nil (point : Point 0) : Inside nil point := fun dim => dim.elim0

theorem inside_cons_iff {first component : Word} {rest : Extent D} {later : Point D} :
    Inside (cons first rest) (cons component later) ↔ component < first ∧ Inside rest later :=
  Fin.forall_fin_succ

/-- The row-major position in exact arithmetic. The point may lie outside the extent. -/
def rank : {D : Nat} → Extent D → Point D → Nat
  | 0, _, _ => 0
  | _ + 1, extent, point => point.head.toNat * extent.tail.volume + rank extent.tail point.tail

@[simp] theorem rank_nil (extent : Extent 0) (point : Point 0) : rank extent point = 0 := rfl

@[simp] theorem rank_cons (first component : Word) (rest : Extent D) (later : Point D) :
    rank (cons first rest) (cons component later) = component.toNat * volume rest + rank rest later := rfl

-- The fold is generalized over its start, which the induction has to multiply through.
theorem toNat_foldl_position (extent : Extent D) (point : Point D) (start : Word) :
    ((extent.toList.zip point.toList).foldl (fun position step => position * step.1 + step.2) start).toNat =
      (start.toNat * extent.volume + rank extent point) % Word.count := by
  induction extent using inductionOn generalizing start with
  | nil =>
    rw [volume_nil, rank_nil, Nat.mul_one, Nat.add_zero, Nat.mod_eq_of_lt (Word.toNat_lt start)]
    rfl
  | cons first rest ih =>
    cases point using consCases with
    | cons component later =>
      have step : (start * first + component).toNat =
          (start.toNat * first.toNat + component.toNat) % Word.count := by simp
      have unfolded : (cons first rest).toList.zip (cons component later).toList =
          (first, component) :: rest.toList.zip later.toList := rfl
      rw [unfolded, List.foldl_cons, ih, step, volume_cons, rank_cons]
      rw [Nat.add_mod, Nat.mod_mul_mod, ← Nat.add_mod]
      congr 1
      rw [Nat.add_mul, Nat.mul_assoc, Nat.add_assoc]

theorem toNat_linearize (extent : Extent D) (point : Point D) :
    (linearize extent point).toNat = rank extent point % Word.count := by
  rw [linearize, toNat_foldl_position]
  simp

theorem rank_lt_volume (inside : Inside extent point) : rank extent point < extent.volume := by
  induction extent using inductionOn with
  | nil => simp
  | cons first rest ih =>
    cases point using consCases with
    | cons component later =>
      obtain ⟨digit, inside⟩ := inside_cons_iff.mp inside
      have smaller := ih inside
      -- A whole row more is still within the extent.
      have row : (component.toNat + 1) * rest.volume ≤ first.toNat * rest.volume :=
        Nat.mul_le_mul_right _ (UInt64.lt_iff_toNat_lt.mp digit)
      rw [Nat.succ_mul] at row
      rw [rank_cons, volume_cons]
      omega

theorem toNat_linearize_of_inside (fits : extent.volume < Word.count) (inside : Inside extent point) :
    (linearize extent point).toNat = rank extent point := by
  rw [toNat_linearize, Nat.mod_eq_of_lt (Nat.lt_trans (rank_lt_volume inside) fits)]

theorem eq_of_rank_eq (inside : Inside extent point) (within : Inside extent other)
    (same : rank extent point = rank extent other) : point = other := by
  induction extent using inductionOn with
  | nil => rw [eq_nil point, eq_nil other]
  | cons first rest ih =>
    cases point using consCases with
    | cons component later =>
      cases other using consCases with
      | cons digit tail =>
        have inside := (inside_cons_iff.mp inside).2
        have within := (inside_cons_iff.mp within).2
        have low := rank_lt_volume inside
        have high := rank_lt_volume within
        rw [rank_cons, rank_cons] at same
        -- The rank of the rest is a remainder, so that the leading components are equal quotients.
        have leading : component.toNat = digit.toNat := by
          have divided := congrArg (· / rest.volume) same
          simpa [Nat.mul_comm _ rest.volume, Nat.mul_add_div (Nat.zero_lt_of_lt low),
            Nat.div_eq_of_lt low, Nat.div_eq_of_lt high] using divided
        rw [leading, Nat.add_left_cancel_iff] at same
        rw [UInt64.toNat_inj.mp leading, ih inside within same]

-- The digits come off the last dimension first, so that the invariant relates the digits taken so
-- far and the number left over to the whole number.
theorem takeDigits_eq_ok {number left : Word} (nonzero : extent.Nonzero)
    (taken : takeDigits extent number = .ok (point, left)) :
    Inside extent point ∧ rank extent point + extent.volume * left.toNat = number.toNat := by
  induction extent using inductionOn generalizing left with
  | nil =>
    rw [takeDigits] at taken
    cases taken
    exact ⟨inside_nil _, by simp⟩
  | cons first rest ih =>
    rw [takeDigits_cons first rest number (nonzero 0)] at taken
    cases earlier : takeDigits rest number with
    | error fault => simp [earlier, Except.map] at taken
    | ok previous =>
      obtain ⟨later, row⟩ := previous
      obtain ⟨inside, total⟩ := ih (fun dim => nonzero dim.succ) earlier
      simp only [earlier, Except.map, Except.ok.injEq, Prod.mk.injEq] at taken
      obtain ⟨rfl, rfl⟩ := taken
      refine ⟨inside_cons_iff.mpr ⟨?_, inside⟩, ?_⟩
      · exact UInt64.mod_lt row (UInt64.pos_iff_ne_zero.mpr (nonzero 0))
      · rw [rank_cons, volume_cons, UInt64.toNat_mod, UInt64.toNat_div, ← total]
        have split := Nat.mod_add_div row.toNat first.toNat
        calc row.toNat % first.toNat * rest.volume + rank rest later +
              first.toNat * rest.volume * (row.toNat / first.toNat)
            = rank rest later + rest.volume * (row.toNat % first.toNat +
                first.toNat * (row.toNat / first.toNat)) := by
              rw [Nat.mul_add, Nat.mul_comm (row.toNat % _), Nat.mul_comm first.toNat, Nat.mul_assoc]
              omega
          _ = rank rest later + rest.volume * row.toNat := by rw [split]

theorem delinearize_eq_ok_iff {position : Word} (nonzero : extent.Nonzero) :
    delinearize extent position = .ok point ↔
      Inside extent point ∧ rank extent point = position.toNat % extent.volume := by
  have sound : ∀ {found : Point D}, delinearize extent position = .ok found →
      Inside extent found ∧ rank extent found = position.toNat % extent.volume := by
    intro found decoded
    rw [delinearize] at decoded
    cases taken : takeDigits extent position with
    | error fault => simp [taken, bind, Except.bind] at decoded
    | ok digits =>
      obtain ⟨digits, left⟩ := digits
      obtain ⟨inside, total⟩ := takeDigits_eq_ok nonzero taken
      simp only [taken, bind, Except.bind, pure, Except.pure, Except.ok.injEq] at decoded
      subst decoded
      refine ⟨inside, ?_⟩
      rw [← total, Nat.add_mul_mod_self_left, Nat.mod_eq_of_lt (rank_lt_volume inside)]
  refine ⟨sound, ?_⟩
  intro placed
  obtain ⟨inside, ranked⟩ := placed
  -- Some point is found, and no other point inside has its rank.
  obtain ⟨found, decoded⟩ := delinearize_eq_ok nonzero position
  obtain ⟨within, same⟩ := sound decoded
  rw [decoded, eq_of_rank_eq inside within (ranked.trans same.symm)]

theorem existsUnique_linearize_eq (fits : extent.volume < Word.count) {position : Word}
    (inside : position.toNat < extent.volume) :
    ∃! point, Inside extent point ∧ linearize extent point = position := by
  have nonzero : extent.Nonzero := fun dim zero =>
    Nat.not_lt_zero _ (volume_eq_zero_iff.mpr ⟨dim, zero⟩ ▸ inside)
  obtain ⟨point, decoded⟩ := delinearize_eq_ok nonzero position
  obtain ⟨within, ranked⟩ := (delinearize_eq_ok_iff nonzero).mp decoded
  rw [Nat.mod_eq_of_lt inside] at ranked
  refine ⟨point, ⟨within, ?_⟩, ?_⟩
  · rw [← UInt64.toNat_inj, toNat_linearize_of_inside fits within, ranked]
  · intro other placed
    obtain ⟨beside, same⟩ := placed
    apply eq_of_rank_eq beside within
    rw [ranked, ← toNat_linearize_of_inside fits beside, same]

end LaunchGeometry.Coords
