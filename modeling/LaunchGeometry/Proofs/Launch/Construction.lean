import LaunchGeometry.Launch.Basic

/-! What the constructors of launches accept, and what they refuse.

A constructor looks for a dimension to refuse and then at the volume. What it
answers is given by the results of its searches, and its exits say what these are
in exact numbers. A constructed launch has its ranges from the constructor and
starts at the origin; moving and embedding it reach every other launch. The vectors of the launches that can be reached are
exactly those with a tiled global range whose volume is one word.
-/

set_option autoImplicit false

namespace LaunchGeometry.Launch

open Coords

variable {D : Nat} {globalRange localRange : Extent D} {launch : Launch D}

theorem ofTiles_of_lt {tiles : Tiles localRange globalRange} (fits : globalRange.volume < Word.count) :
    ofTiles globalRange localRange tiles = .ok ⟨globalRange, localRange, fill D 0, tiles, fits⟩ := by
  unfold ofTiles
  split
  next refused =>
    rw [size?_of_lt fits] at refused
    contradiction
  next => rfl

theorem ofTiles_of_le {tiles : Tiles localRange globalRange} (large : Word.count ≤ globalRange.volume) :
    ofTiles globalRange localRange tiles = .failWith (.volumeOverflow globalRange) .volumeOverflow := by
  unfold ofTiles
  split
  next => rfl
  next count counted => exact absurd (volume_lt_of_size? counted) (Nat.not_lt.mpr large)

theorem ofTiles_outcome_eq_ok_iff {tiles : Tiles localRange globalRange} :
    (ofTiles globalRange localRange tiles).outcome = .ok launch ↔
      launch.globalRange = globalRange ∧ launch.localRange = localRange ∧ launch.offset = fill D 0 := by
  constructor
  · intro built
    rcases Nat.lt_or_ge globalRange.volume Word.count with fits | large
    · rw [ofTiles_of_lt fits] at built
      cases built
      exact ⟨rfl, rfl, rfl⟩
    · rw [ofTiles_of_le large] at built
      contradiction
  · intro fields
    obtain ⟨rfl, rfl, origin⟩ := fields
    rw [ofTiles_of_lt launch.fits, ← origin]
    rfl

-- A constructor keeps the proofs of its searches, so that the results of the searches cannot be rewritten
-- in it. The equations below do that once for each way through a constructor.
theorem exact_of_zeroDim {dim : Fin D} (zero : localRange.zeroDim? = some dim) :
    exact globalRange localRange = .fail (.zeroLocalSize dim) := by
  unfold exact
  split
  next other searched =>
    rw [zero, Option.some_inj] at searched
    rw [searched]
  next searched =>
    rw [zero] at searched
    contradiction

/-- The search for a dimension that does not divide, without the proof that no divisor is zero. -/
def indivisibleDim? (globalRange localRange : Extent D) : Option (Fin D) :=
  firstDim? fun dim => globalRange dim % localRange dim != 0

theorem indivisibleDim?_eq_none_iff :
    indivisibleDim? globalRange localRange = none ↔
      ∀ dim, (localRange dim).toNat ∣ (globalRange dim).toNat := by
  simp [indivisibleDim?, firstDim?_eq_none_iff, Word.mod_eq_zero_iff_dvd]

theorem indivisibleDim?_eq_some_iff {dim : Fin D} :
    indivisibleDim? globalRange localRange = some dim ↔
      ¬ (localRange dim).toNat ∣ (globalRange dim).toNat ∧
        ∀ earlier < dim, (localRange earlier).toNat ∣ (globalRange earlier).toNat := by
  simp [indivisibleDim?, firstDim?_eq_some_iff, Word.mod_eq_zero_iff_dvd]

theorem exact_of_indivisibleDim {dim : Fin D} (nonzero : localRange.Nonzero)
    (divided : indivisibleDim? globalRange localRange = some dim) :
    exact globalRange localRange = .fail (.notDivisible dim (globalRange dim) (localRange dim)) := by
  unfold exact
  split
  next other searched =>
    rw [zeroDim?_eq_none_iff.mpr nonzero] at searched
    contradiction
  next searched =>
    dsimp only
    split
    next other found =>
      simp only [remainder_apply] at found
      rw [← indivisibleDim?, divided, Option.some_inj] at found
      rw [found]
    next found =>
      simp only [remainder_apply] at found
      rw [← indivisibleDim?, divided] at found
      contradiction

theorem exact_of_tiles (tiles : Tiles localRange globalRange) :
    exact globalRange localRange = ofTiles globalRange localRange tiles := by
  unfold exact
  split
  next dim searched =>
    rw [zeroDim?_eq_none_iff.mpr fun dim => (tiles dim).1] at searched
    contradiction
  next searched =>
    dsimp only
    split
    next dim divided =>
      have remains := (firstDim?_eq_some_iff.mp divided).1
      rw [remainder_apply, (tiles dim).2] at remains
      contradiction
    next => rfl

theorem tiles_iff_dvd :
    Tiles localRange globalRange ↔
      localRange.Nonzero ∧ ∀ dim, (localRange dim).toNat ∣ (globalRange dim).toNat := by
  simp [Tiles, Word.mod_eq_zero_iff_dvd, forall_and]

theorem tiles_of_indivisibleDim (nonzero : localRange.Nonzero)
    (divided : indivisibleDim? globalRange localRange = none) : Tiles localRange globalRange :=
  tiles_iff_dvd.mpr ⟨nonzero, indivisibleDim?_eq_none_iff.mp divided⟩

/-- The exits of building a launch from ranges as they stand, each with what has been found on the way to it. -/
inductive ExactExit (globalRange localRange : Extent D) : Traced Refusal (Launch D) → Prop where
  | zeroLocalSize {dim : Fin D} : localRange dim = 0 → (∀ earlier < dim, localRange earlier ≠ 0) →
      ExactExit globalRange localRange (.fail (.zeroLocalSize dim))
  | notDivisible {dim : Fin D} : localRange.Nonzero → ¬ (localRange dim).toNat ∣ (globalRange dim).toNat →
      (∀ earlier < dim, (localRange earlier).toNat ∣ (globalRange earlier).toNat) →
      ExactExit globalRange localRange (.fail (.notDivisible dim (globalRange dim) (localRange dim)))
  | volumeOverflow : Tiles localRange globalRange → Word.count ≤ globalRange.volume →
      ExactExit globalRange localRange (.failWith (.volumeOverflow globalRange) .volumeOverflow)
  | built (tiles : Tiles localRange globalRange) (fits : globalRange.volume < Word.count) :
      ExactExit globalRange localRange (.ok ⟨globalRange, localRange, fill D 0, tiles, fits⟩)

theorem exact_exit (globalRange localRange : Extent D) :
    ExactExit globalRange localRange (exact globalRange localRange) := by
  cases searched : localRange.zeroDim? with
  | some dim =>
    rw [exact_of_zeroDim searched]
    obtain ⟨zero, before⟩ := zeroDim?_eq_some_iff.mp searched
    exact .zeroLocalSize zero before
  | none =>
    have nonzero := zeroDim?_eq_none_iff.mp searched
    cases divided : indivisibleDim? globalRange localRange with
    | some dim =>
      rw [exact_of_indivisibleDim nonzero divided]
      obtain ⟨remains, before⟩ := indivisibleDim?_eq_some_iff.mp divided
      exact .notDivisible nonzero remains before
    | none =>
      have tiles := tiles_of_indivisibleDim nonzero divided
      rw [exact_of_tiles tiles]
      rcases Nat.lt_or_ge globalRange.volume Word.count with fits | large
      · rw [ofTiles_of_lt fits]
        exact .built tiles fits
      · rw [ofTiles_of_le large]
        exact .volumeOverflow tiles large

theorem ExactExit.exact_eq {call : Traced Refusal (Launch D)} (exit : ExactExit globalRange localRange call) :
    exact globalRange localRange = call := by
  cases exit with
  | zeroLocalSize zero before => exact exact_of_zeroDim (zeroDim?_eq_some_iff.mpr ⟨zero, before⟩)
  | notDivisible nonzero remains before =>
    exact exact_of_indivisibleDim nonzero (indivisibleDim?_eq_some_iff.mpr ⟨remains, before⟩)
  | volumeOverflow tiles large => exact (exact_of_tiles tiles).trans (ofTiles_of_le large)
  | built tiles fits => exact (exact_of_tiles tiles).trans (ofTiles_of_lt fits)

-- A launch carries the proofs that the checks decide, so that a launch with the given ranges rules
-- every refusal out.
theorem exact_outcome_eq_ok_iff :
    (exact globalRange localRange).outcome = .ok launch ↔
      launch.globalRange = globalRange ∧ launch.localRange = localRange ∧ launch.offset = fill D 0 := by
  constructor
  · intro built
    have exit := exact_exit globalRange localRange
    generalize exact globalRange localRange = call at exit built
    cases exit with
    | zeroLocalSize | notDivisible | volumeOverflow => cases built
    | built tiles fits =>
      cases built
      exact ⟨rfl, rfl, rfl⟩
  · intro fields
    obtain ⟨rfl, rfl, origin⟩ := fields
    rw [exact_of_tiles launch.tiles]
    exact ofTiles_outcome_eq_ok_iff.mpr ⟨rfl, rfl, origin⟩

theorem padded_of_zeroDim {dim : Fin D} (zero : localRange.zeroDim? = some dim) :
    padded globalRange localRange = .fail (.zeroLocalSize dim) := by
  unfold padded
  split
  next other searched =>
    rw [zero, Option.some_inj] at searched
    rw [searched]
  next searched =>
    rw [zero] at searched
    contradiction

theorem padded_of_roundUp_error {refusal : Refusal} (nonzero : localRange.Nonzero)
    (refused : roundUp globalRange localRange = .error refusal) :
    padded globalRange localRange = .fail refusal := by
  unfold padded
  split
  next dim searched =>
    rw [zeroDim?_eq_none_iff.mpr nonzero] at searched
    contradiction
  next =>
    split
    next other failed =>
      rw [refused, Except.error.injEq] at failed
      rw [failed]
    next rounded multiple =>
      rw [refused] at multiple
      contradiction

theorem padded_of_roundUp {rounded : Extent D} (nonzero : localRange.Nonzero)
    (multiple : roundUp globalRange localRange = .ok rounded) :
    padded globalRange localRange =
      ofTiles rounded localRange (tiles_of_roundUp nonzero multiple) >>= fun launch =>
        if rounded = globalRange then .ok launch
        else .okWith (.padded globalRange rounded localRange) launch := by
  unfold padded
  split
  next dim searched =>
    rw [zeroDim?_eq_none_iff.mpr nonzero] at searched
    contradiction
  next =>
    split
    next refusal failed =>
      rw [multiple] at failed
      contradiction
    next other answered =>
      obtain rfl : other = rounded := Except.ok.inj (answered.symm.trans multiple)
      rfl

-- The report of a changed range has no part in the outcome.
theorem padded_outcome_of_roundUp {rounded : Extent D} (nonzero : localRange.Nonzero)
    (multiple : roundUp globalRange localRange = .ok rounded) :
    (padded globalRange localRange).outcome =
      (ofTiles rounded localRange (tiles_of_roundUp nonzero multiple)).outcome := by
  have reported : ∀ launch : Launch D, (if rounded = globalRange then Traced.ok launch
      else .okWith (.padded globalRange rounded localRange) launch : Traced Refusal (Launch D)).outcome =
        pure launch := by
    intro launch
    split <;> rfl
  rw [padded_of_roundUp nonzero multiple]
  simp only [Traced.outcome_bind, reported, bind_pure]

inductive PaddedExit (globalRange localRange : Extent D) : Traced Refusal (Launch D) → Prop where
  | zeroLocalSize {dim : Fin D} : localRange dim = 0 → (∀ earlier < dim, localRange earlier ≠ 0) →
      PaddedExit globalRange localRange (.fail (.zeroLocalSize dim))
  | rangeOverflow {dim : Fin D} : localRange.Nonzero → (globalRange dim).roundUp? (localRange dim) = none →
      (∀ earlier < dim, (globalRange earlier).roundUp? (localRange earlier) ≠ none) →
      PaddedExit globalRange localRange (.fail (.rangeOverflow dim (globalRange dim) (localRange dim)))
  | volumeOverflow {rounded : Extent D} : localRange.Nonzero → roundUp globalRange localRange = .ok rounded →
      Word.count ≤ rounded.volume →
      PaddedExit globalRange localRange (.failWith (.volumeOverflow rounded) .volumeOverflow)
  | kept (tiles : Tiles localRange globalRange) (fits : globalRange.volume < Word.count) :
      roundUp globalRange localRange = .ok globalRange →
      PaddedExit globalRange localRange (.ok ⟨globalRange, localRange, fill D 0, tiles, fits⟩)
  | changed {rounded : Extent D} (tiles : Tiles localRange rounded) (fits : rounded.volume < Word.count) :
      roundUp globalRange localRange = .ok rounded → rounded ≠ globalRange →
      PaddedExit globalRange localRange
        (.okWith (.padded globalRange rounded localRange) ⟨rounded, localRange, fill D 0, tiles, fits⟩)

theorem padded_exit (globalRange localRange : Extent D) :
    PaddedExit globalRange localRange (padded globalRange localRange) := by
  cases searched : localRange.zeroDim? with
  | some dim =>
    rw [padded_of_zeroDim searched]
    obtain ⟨zero, before⟩ := zeroDim?_eq_some_iff.mp searched
    exact .zeroLocalSize zero before
  | none =>
    have nonzero := zeroDim?_eq_none_iff.mp searched
    cases multiple : roundUp globalRange localRange with
    | error refusal =>
      obtain ⟨dim, rfl, refused, before⟩ := roundUp_eq_error_iff.mp multiple
      rw [padded_of_roundUp_error nonzero multiple]
      exact .rangeOverflow nonzero refused before
    | ok rounded =>
      have tiles := tiles_of_roundUp nonzero multiple
      rw [padded_of_roundUp nonzero multiple]
      -- The volume is looked at before the change of the range is reported.
      rcases Nat.lt_or_ge rounded.volume Word.count with fits | large
      · rw [ofTiles_of_lt fits, Traced.ok_bind]
        split
        next same =>
          subst same
          exact .kept tiles fits multiple
        next changed => exact .changed tiles fits multiple changed
      · rw [ofTiles_of_le large, Traced.failWith_bind]
        exact .volumeOverflow nonzero multiple large

theorem padded_outcome_eq_ok_iff :
    (padded globalRange localRange).outcome = .ok launch ↔
      roundUp globalRange localRange = .ok launch.globalRange ∧
        launch.localRange = localRange ∧ launch.offset = fill D 0 := by
  constructor
  · intro built
    have exit := padded_exit globalRange localRange
    generalize padded globalRange localRange = call at exit built
    cases exit with
    | zeroLocalSize | rangeOverflow | volumeOverflow => cases built
    | kept tiles fits multiple | changed tiles fits multiple =>
      cases built
      exact ⟨multiple, rfl, rfl⟩
  · intro fields
    obtain ⟨multiple, rfl, origin⟩ := fields
    rw [padded_outcome_of_roundUp launch.nonzero_localRange multiple]
    exact ofTiles_outcome_eq_ok_iff.mpr ⟨rfl, rfl, origin⟩

/-- What a client can hold: a constructed launch, moved and embedded any number of times. -/
inductive Reachable : {D : Nat} → Launch D → Prop where
  | exact {D : Nat} {globalRange localRange : Extent D} {launch : Launch D} :
      (Launch.exact globalRange localRange).outcome = .ok launch → Reachable launch
  | padded {D : Nat} {globalRange localRange : Extent D} {launch : Launch D} :
      (Launch.padded globalRange localRange).outcome = .ok launch → Reachable launch
  | withOffset {D : Nat} {launch : Launch D} (offset : Point D) :
      Reachable launch → Reachable (launch.withOffset offset)
  | embed {D : Nat} {launch : Launch D} (fits : D ≤ 3) : Reachable launch → Reachable (launch.embed fits)

/-- The type of launches holds no launch that a client could not come by. -/
theorem reachable (launch : Launch D) : launch.Reachable := by
  have built : Reachable (launch.withOffset (fill D 0)) :=
    .exact (exact_outcome_eq_ok_iff.mpr ⟨rfl, rfl, rfl⟩)
  exact built.withOffset launch.offset

end LaunchGeometry.Launch
