import LaunchGeometry.Coords.Arithmetic
import LaunchGeometry.Coords.Canonical
import LaunchGeometry.Proofs.RowMajor.Rank

/-! Vectors in canonical form.

A dimension of an embedded vector is a leading one, which is padding, or holds a
dimension of the vector. So operations on components commute with embedding where
they turn padding into padding, and a search from the first dimension on passes
over padding that it does not accept. A point is padded by 0 and an extent by 1,
which keeps both the rank of the point and the volume of the extent.
-/

set_option autoImplicit false

namespace LaunchGeometry.Coords

variable {D : Nat} (fits : D ≤ 3)

@[elab_as_elim] theorem canonicalCases {motive : Fin 3 → Prop} (dim : Fin 3)
    (leading : ∀ dim : Fin 3, dim.val < 3 - D → motive dim)
    (inner : ∀ dim : Fin D, motive (canonicalDim fits dim)) : motive dim := by
  rcases leading_or_canonicalDim fits dim with below | ⟨place, rfl⟩
  · exact leading dim below
  · exact inner place

theorem toList_three (coords : Coords 3) : coords.toList = [coords 0, coords 1, coords 2] := by
  cases coords using consCases with
  | cons first rest =>
    cases rest using consCases with
    | cons second rest =>
      cases rest using consCases with
      | cons third rest =>
        rw [eq_nil rest]
        rfl

theorem canonicalDim_lt_iff {earlier dim : Fin D} :
    canonicalDim fits earlier < canonicalDim fits dim ↔ earlier < dim :=
  Nat.add_lt_add_iff_left

theorem firstDim?_canonical {test : Fin 3 → Bool}
    (padding : ∀ dim : Fin 3, dim.val < 3 - D → test dim = false) :
    firstDim? test = (firstDim? fun dim => test (canonicalDim fits dim)).map (canonicalDim fits) := by
  cases searched : firstDim? fun dim => test (canonicalDim fits dim) with
  | none =>
    apply firstDim?_eq_none_iff.mpr
    intro dim
    cases dim using canonicalCases fits with
    | leading dim below => exact padding dim below
    | inner dim => exact firstDim?_eq_none_iff.mp searched dim
  | some dim =>
    obtain ⟨accepted, before⟩ := firstDim?_eq_some_iff.mp searched
    apply firstDim?_eq_some_iff.mpr
    constructor
    · exact accepted
    · intro earlier less
      cases earlier using canonicalCases fits with
      | leading earlier below => exact padding earlier below
      | inner earlier => exact before earlier ((canonicalDim_lt_iff fits).mp less)

/-- Actions that answer the padding leave a run to the actions of the vector. A fault may have another
name in the run over the vector. -/
theorem ofFnM_canonical {ε δ : Type} {action : Fin 3 → Except ε Word} {inner : Fin D → Except δ Word}
    {pad : Word} {rename : δ → ε} (padding : ∀ dim : Fin 3, dim.val < 3 - D → action dim = .ok pad)
    (agrees : ∀ dim, action (canonicalDim fits dim) = (inner dim).mapError rename) :
    ofFnM action = ((ofFnM inner).map (embed fits pad)).mapError rename := by
  have answered : ∀ dim component, inner dim = .ok component →
      action (canonicalDim fits dim) = .ok component := by
    intro dim component here
    rw [agrees, here]
    rfl
  cases ran : ofFnM inner with
  | ok coords =>
    apply ofFnM_eq_ok_iff.mpr
    intro dim
    cases dim using canonicalCases fits with
    | leading dim below => rw [padding dim below, embed_apply_of_lt fits pad coords below]
    | inner dim =>
      rw [embed_canonicalDim]
      exact answered dim _ (ofFnM_eq_ok_iff.mp ran dim)
  | error fault =>
    obtain ⟨dim, failed, before⟩ := ofFnM_eq_error_iff.mp ran
    apply ofFnM_eq_error_iff.mpr
    refine ⟨canonicalDim fits dim, ?_, ?_⟩
    · rw [agrees, failed]
      rfl
    · intro earlier less
      cases earlier using canonicalCases fits with
      | leading earlier below => exact ⟨pad, padding earlier below⟩
      | inner earlier =>
        obtain ⟨component, here⟩ := before earlier ((canonicalDim_lt_iff fits).mp less)
        exact ⟨component, answered earlier component here⟩

theorem eq_embed_iff {α : Type} [Components α D] {pad : Word} {source : α} {coords : Coords 3} :
    coords = embed fits pad source ↔ (∀ dim : Fin 3, dim.val < 3 - D → coords dim = pad) ∧
      ∀ dim, coords (canonicalDim fits dim) = Components.component source dim := by
  constructor
  · intro same
    subst same
    exact ⟨fun dim below => embed_apply_of_lt fits pad source below, embed_canonicalDim fits pad source⟩
  · intro parts
    ext dim
    cases dim using canonicalCases fits with
    | leading dim below => rw [parts.1 dim below, embed_apply_of_lt fits pad source below]
    | inner dim => rw [parts.2 dim, embed_canonicalDim]

theorem trailing_embed (pad : Word) (coords : Coords D) : trailing fits (embed fits pad coords) = coords := by
  ext dim
  simp

theorem forall_embed_iff (related : Word → Word → Prop) (pad other : Word) {a b : Coords D}
    (padding : related pad other) :
    (∀ dim, related (embed fits pad a dim) (embed fits other b dim)) ↔ ∀ dim, related (a dim) (b dim) := by
  constructor
  · intro all dim
    simpa using all (canonicalDim fits dim)
  · intro all dim
    cases dim using canonicalCases fits with
    | leading dim below =>
      rw [embed_apply_of_lt fits pad a below, embed_apply_of_lt fits other b below]
      exact padding
    | inner dim => simpa using all dim

theorem forall_embed_apply_iff (holds : Word → Prop) (pad : Word) {coords : Coords D} :
    (∀ dim, holds (embed fits pad coords dim)) ↔ (∀ dim, holds (coords dim)) ∧ (D = 3 ∨ holds pad) := by
  constructor
  · intro all
    refine ⟨fun dim => by simpa using all (canonicalDim fits dim), ?_⟩
    rcases Nat.eq_or_lt_of_le fits with full | short
    · exact .inl full
    · have leading : (0 : Fin 3).val < 3 - D := Nat.sub_pos_of_lt short
      exact .inr (embed_apply_of_lt fits pad coords leading ▸ all 0)
  · intro parts dim
    obtain ⟨all, padding⟩ := parts
    cases dim using canonicalCases fits with
    | leading dim below =>
      rw [embed_apply_of_lt fits pad coords below]
      exact padding.resolve_left (by omega)
    | inner dim => simpa using all dim

theorem embed_zipWith (f : Word → Word → Word) (pad other : Word) (a b : Coords D) :
    embed fits (f pad other) (zipWith f a b) = zipWith f (embed fits pad a) (embed fits other b) := by
  ext dim
  cases dim using canonicalCases fits with
  | leading dim below =>
    rw [zipWith_apply, embed_apply_of_lt fits pad a below, embed_apply_of_lt fits other b below,
      embed_apply_of_lt fits _ _ below]
  | inner dim => simp

theorem embedPoint_add (a b : Point D) : embedPoint fits (a + b) = embedPoint fits a + embedPoint fits b :=
  embed_zipWith fits (· + ·) 0 0 a b

theorem embedPoint_sub (a b : Point D) : embedPoint fits (a - b) = embedPoint fits a - embedPoint fits b :=
  embed_zipWith fits (· - ·) 0 0 a b

theorem quotient_embed (pad : Word) (coords : Coords D) {extent : Extent D} (nonzero : extent.Nonzero)
    (padded : (embedExtent fits extent).Nonzero) :
    (embed fits pad coords).quotient (embedExtent fits extent) padded =
      embed fits pad (coords.quotient extent nonzero) := by
  apply (eq_embed_iff fits).mpr
  constructor
  · intro dim below
    rw [quotient_apply, embed_apply_of_lt fits pad coords below, embedExtent_apply_of_lt fits extent below]
    exact UInt64.div_one
  · intro dim
    simp

theorem remainder_embed (pad : Word) (coords : Coords D) {extent : Extent D} (nonzero : extent.Nonzero)
    (padded : (embedExtent fits extent).Nonzero) :
    (embed fits pad coords).remainder (embedExtent fits extent) padded =
      embedPoint fits (coords.remainder extent nonzero) := by
  apply (eq_embed_iff fits).mpr
  constructor
  · intro dim below
    rw [remainder_apply, embed_apply_of_lt fits pad coords below, embedExtent_apply_of_lt fits extent below]
    exact UInt64.mod_one
  · intro dim
    simp

theorem embedPoint_fill_zero : embedPoint fits (fill D 0) = fill 3 0 := by
  symm
  apply (eq_embed_iff fits).mpr
  constructor <;> intros <;> simp

theorem nonzero_embedExtent_iff {extent : Extent D} : (embedExtent fits extent).Nonzero ↔ extent.Nonzero :=
  forall_embed_iff fits (fun component _ => component ≠ 0) 1 1 (b := extent) (by decide)

theorem inside_embed_iff {extent : Extent D} {point : Point D} :
    Inside (embedExtent fits extent) (embedPoint fits point) ↔ Inside extent point :=
  forall_embed_iff fits (· < ·) 0 1 (by decide)

/-- What holds of an extent and a point and survives a leading 1 of the extent with a leading 0 of the
point holds of their embeddings. -/
theorem embed_induction {motive : {E : Nat} → Extent E → Point E → Prop} {extent : Extent D} {point : Point D}
    (whole : motive extent point)
    (padded : ∀ {E : Nat} {extent : Extent E} {point : Point E},
      motive extent point → motive (cons 1 extent) (cons 0 point)) :
    motive (embedExtent fits extent) (embedPoint fits point) := by
  -- An embedding is not built by `cons`, so that the induction is on the leading part of its list.
  have leading : ∀ (count : Nat) {E : Nat} {outer : Extent E} {id : Point E},
      outer.toList = List.replicate count 1 ++ extent.toList →
      id.toList = List.replicate count 0 ++ point.toList → motive outer id := by
    intro count
    induction count with
    | zero =>
      intro E outer id ranges places
      obtain rfl : E = D := by simpa using congrArg List.length ranges
      rw [eq_of_toList ranges, eq_of_toList places]
      exact whole
    | succ count ih =>
      intro E outer id ranges places
      cases E with
      | zero =>
        have length := congrArg List.length ranges
        simp only [length_toList, List.length_append, List.length_replicate] at length
        omega
      | succ E =>
        cases outer using consCases with
        | cons first rest =>
          cases id using consCases with
          | cons component later =>
            obtain ⟨rfl, restRanges⟩ := List.cons.inj ranges
            obtain ⟨rfl, laterPlaces⟩ := List.cons.inj places
            exact padded (ih restRanges laterPlaces)
  exact leading (3 - D) (toList_embed fits 1 extent) (toList_embed fits 0 point)

theorem rank_embed (extent : Extent D) (point : Point D) :
    rank (embedExtent fits extent) (embedPoint fits point) = rank extent point := by
  apply embed_induction fits (motive := fun outer id => rank outer id = rank extent point)
  · rfl
  · intro E outer id same
    rw [rank_cons, UInt64.toNat_zero, Nat.zero_mul, Nat.zero_add]
    exact same

theorem size_embedExtent (extent : Extent D) : (embedExtent fits extent).size = extent.size := by
  rw [← UInt64.toNat_inj, toNat_size, toNat_size, volume_embedExtent]

theorem size?_embedExtent (extent : Extent D) : (embedExtent fits extent).size? = extent.size? := by
  ext count
  rw [size?_eq_some_iff, size?_eq_some_iff, volume_embedExtent]

theorem delinearize_embedExtent {extent : Extent D} {position : Word} {point : Point D}
    (nonzero : extent.Nonzero) (decoded : extent.delinearize position = .ok point) :
    (embedExtent fits extent).delinearize position = .ok (embedPoint fits point) := by
  obtain ⟨inside, ranked⟩ := (delinearize_eq_ok_iff nonzero).mp decoded
  apply (delinearize_eq_ok_iff ((nonzero_embedExtent_iff fits).mpr nonzero)).mpr
  rw [rank_embed, volume_embedExtent]
  exact ⟨(inside_embed_iff fits).mpr inside, ranked⟩

end LaunchGeometry.Coords
