import LaunchGeometry.Proofs.Launch.Counts

/-! What a launch is refused for whose range is taken as it stands.

The local range is looked at in all dimensions before the global range is, and the volume comes
last, so that a launch with several faults is refused for the first dimension of the first kind. A
remainder is taken only past the search for zeros in the local range: a search that could fault, as
division by zero does, finds the same dimension and never faults.
-/

set_option autoImplicit false

namespace LaunchGeometry.Launch

open Coords

variable {D : Nat} {globalRange localRange : Extent D}

theorem exists_exact_iff :
    (∃ launch, (exact globalRange localRange).outcome = .ok launch) ↔
      Tiles localRange globalRange ∧ globalRange.volume < Word.count := by
  constructor
  · intro built
    obtain ⟨launch, built⟩ := built
    obtain ⟨rfl, rfl, _⟩ := exact_outcome_eq_ok_iff.mp built
    exact ⟨launch.tiles, launch.fits⟩
  · intro sound
    obtain ⟨tiles, fits⟩ := sound
    exact ⟨⟨globalRange, localRange, fill D 0, tiles, fits⟩, exact_outcome_eq_ok_iff.mpr ⟨rfl, rfl, rfl⟩⟩

/-- The search with each remainder taken where it comes to it. A zero divisor would be a fault. -/
def searchIndivisible (globalRange localRange : Extent D) : Except ZeroDivisor (Option (Fin D)) :=
  (List.finRange D).findM? fun dim => do return (← (globalRange dim).rem (localRange dim)) != 0

def attemptExact (globalRange localRange : Extent D) : Except ZeroDivisor (Except Refusal Unit) :=
  match localRange.zeroDim? with
  | some dim => .ok (.error (.zeroLocalSize dim))
  | none => do
    match ← searchIndivisible globalRange localRange with
    | some dim => return .error (.notDivisible dim (globalRange dim) (localRange dim))
    | none =>
      match globalRange.size? with
      | none => return .error .volumeOverflow
      | some _ => return .ok ()

theorem searchIndivisible_eq_ok (nonzero : localRange.Nonzero) :
    searchIndivisible globalRange localRange = .ok (indivisibleDim? globalRange localRange) := by
  have remainders : (fun dim => do return (← (globalRange dim).rem (localRange dim)) != 0) =
      fun dim => (pure (globalRange dim % localRange dim != 0) : Except ZeroDivisor Bool) := by
    funext dim
    rw [Word.rem_of_ne_zero (nonzero dim)]
    rfl
  rw [searchIndivisible, remainders, List.findM?_pure]
  rfl

theorem attemptExact_eq_ok (globalRange localRange : Extent D) :
    attemptExact globalRange localRange = .ok ((exact globalRange localRange).outcome.map fun _ => ()) := by
  have exit := exact_exit globalRange localRange
  generalize exact globalRange localRange = call at exit ⊢
  -- Past the first exit no divisor is zero, and the search that could fault is the one that cannot.
  cases exit with
  | zeroLocalSize zero before =>
    have found := zeroDim?_eq_some_iff.mpr ⟨zero, before⟩
    simp only [attemptExact, found]
    rfl
  | notDivisible nonzero remains before =>
    have searched := zeroDim?_eq_none_iff.mpr nonzero
    have found := indivisibleDim?_eq_some_iff.mpr ⟨remains, before⟩
    simp only [attemptExact, searched, searchIndivisible_eq_ok nonzero, found]
    rfl
  | volumeOverflow tiles large =>
    obtain ⟨nonzero, divides⟩ := tiles_iff_dvd.mp tiles
    have searched := zeroDim?_eq_none_iff.mpr nonzero
    have divided := indivisibleDim?_eq_none_iff.mpr divides
    simp only [attemptExact, searched, searchIndivisible_eq_ok nonzero, divided, size?_eq_none_iff.mpr large]
    rfl
  | built tiles fits =>
    obtain ⟨nonzero, divides⟩ := tiles_iff_dvd.mp tiles
    have searched := zeroDim?_eq_none_iff.mpr nonzero
    have divided := indivisibleDim?_eq_none_iff.mpr divides
    simp only [attemptExact, searched, searchIndivisible_eq_ok nonzero, divided, size?_of_lt fits]
    rfl

/-- Building a launch from ranges as they stand never faults. It succeeds exactly if no local size is zero,
every global size is a multiple of its local size and the number of work items is a word. Otherwise it is
refused for the first dimension without a local size, past that for the first that does not divide, and
past that for the volume. -/
theorem exact_refuses_first (globalRange localRange : Extent D) :
    attemptExact globalRange localRange = .ok ((exact globalRange localRange).outcome.map fun _ => ()) ∧
    ((∃ launch, (exact globalRange localRange).outcome = .ok launch) ↔
      (∀ dim, localRange dim ≠ 0) ∧ (∀ dim, (localRange dim).toNat ∣ (globalRange dim).toNat) ∧
        globalRange.volume < Word.count) ∧
    ∀ call, exact globalRange localRange = call ↔ ExactExit globalRange localRange call := by
  refine ⟨attemptExact_eq_ok globalRange localRange, ?_, fun call => ⟨?_, ExactExit.exact_eq⟩⟩
  · rw [exists_exact_iff, tiles_iff_dvd, and_assoc]
  · intro same
    exact same ▸ exact_exit globalRange localRange

example :
    (exact ⟨[5, 4, 7], rfl⟩ ⟨[2, 0, 0], rfl⟩ : Traced Refusal (Launch 3)) = .fail (.zeroLocalSize 1) ∧
      searchIndivisible (⟨[4, 7], rfl⟩ : Extent 2) ⟨[2, 0], rfl⟩ = .error .remainder := by
  decide

end LaunchGeometry.Launch
