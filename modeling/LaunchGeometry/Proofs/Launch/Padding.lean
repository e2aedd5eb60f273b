import LaunchGeometry.Proofs.Ceiling
import LaunchGeometry.Proofs.Launch.Counts

/-! Padding a global range that is a multiple of the local range already.

Padding leaves a multiple as it is, if it gets so far: each component is rounded
through its sum with the local size less one, and a sum that is no word is refused,
although the multiple is one. So the two constructors agree on a tiled range
exactly where all of these sums are words, which is where the words above the
range leave room for one more group.
-/

set_option autoImplicit false

namespace LaunchGeometry.Launch

open Coords

variable {D : Nat} {globalRange localRange : Extent D} {launch : Launch D}

/-- The words above the global range leave room for one more group along every dimension. -/
def HasRoom (globalRange localRange : Extent D) : Prop :=
  ∀ dim, (globalRange dim).toNat + (localRange dim).toNat ≤ Word.count

theorem roundUp_eq_self_iff (launch : Launch D) :
    roundUp launch.globalRange launch.localRange = .ok launch.globalRange ↔
      HasRoom launch.globalRange launch.localRange := by
  rw [roundUp_eq_ok_iff]
  refine forall_congr' fun dim => ?_
  have positive := launch.localRange_pos dim
  have multiple := Word.mul_ceilDiv_of_dvd positive (launch.localRange_dvd dim)
  rw [Word.roundUp?_eq_some_iff]
  exact ⟨fun rounded => rounded.2.1, fun fits => ⟨positive, fits, multiple⟩⟩

theorem padded_outcome_eq_self_iff (built : (exact globalRange localRange).outcome = .ok launch) :
    (padded globalRange localRange).outcome = .ok launch ↔ HasRoom globalRange localRange := by
  obtain ⟨rfl, rfl, origin⟩ := exact_outcome_eq_ok_iff.mp built
  rw [padded_outcome_eq_ok_iff, roundUp_eq_self_iff]
  exact ⟨And.left, fun fits => ⟨fits, rfl, origin⟩⟩

theorem exact_of_padded (built : (padded globalRange localRange).outcome = .ok launch) :
    (exact launch.globalRange localRange).outcome = .ok launch := by
  obtain ⟨_, same, origin⟩ := padded_outcome_eq_ok_iff.mp built
  exact exact_outcome_eq_ok_iff.mpr ⟨rfl, same, origin⟩

theorem padded_eq_fail {dim : Fin D} (nonzero : localRange.Nonzero)
    (large : Word.count < (globalRange dim).toNat + (localRange dim).toNat)
    (least : ∀ earlier < dim, (globalRange earlier).toNat + (localRange earlier).toNat ≤ Word.count) :
    padded globalRange localRange = .fail (.rangeOverflow dim (globalRange dim) (localRange dim)) := by
  have refused : roundUp globalRange localRange =
      .error (.rangeOverflow dim (globalRange dim) (localRange dim)) := by
    refine roundUp_eq_error_iff.mpr ⟨dim, rfl, Word.roundUp?_eq_none_iff.mpr (.inr large), ?_⟩
    intro earlier before none
    rcases Word.roundUp?_eq_none_iff.mp none with zero | above
    · exact nonzero earlier zero
    · exact Nat.not_lt.mpr (least earlier before) above
  exact padded_of_roundUp_error nonzero refused

-- The number of words is a multiple of the local size above the global size.
theorem hasRoom_of_dvd (tiles : Tiles localRange globalRange)
    (divides : ∀ dim, (localRange dim).toNat ∣ Word.count) : HasRoom globalRange localRange := by
  intro dim
  have positive := Word.toNat_pos (tiles dim).1
  have least := (Word.leastMultiple_iff positive).mpr (Word.mul_ceilDiv_of_dvd positive (tiles.dvd dim))
  exact (least.add_le_iff_lt positive (divides dim)).mpr (Word.toNat_lt (globalRange dim))

/-- On a range that tiles, and so on a padded one, padding agrees with building the launch as it
stands exactly where there is room for one more group. There is wherever the local sizes divide the number
of words. The first dimension without room is refused. -/
theorem padded_agrees_iff :
    ((exact globalRange localRange).outcome = .ok launch →
      ((padded globalRange localRange).outcome = .ok launch ↔ HasRoom globalRange localRange)) ∧
    ((padded globalRange localRange).outcome = .ok launch →
      ((padded launch.globalRange localRange).outcome = .ok launch ↔
        HasRoom launch.globalRange localRange)) ∧
    (Tiles localRange globalRange → (∀ dim, (localRange dim).toNat ∣ Word.count) →
      HasRoom globalRange localRange) ∧
    (localRange.Nonzero → ∀ dim, Word.count < (globalRange dim).toNat + (localRange dim).toNat →
      (∀ earlier < dim, (globalRange earlier).toNat + (localRange earlier).toNat ≤ Word.count) →
      padded globalRange localRange = .fail (.rangeOverflow dim (globalRange dim) (localRange dim))) := by
  refine ⟨padded_outcome_eq_self_iff, fun built => ?_, hasRoom_of_dvd, fun nonzero dim => padded_eq_fail nonzero⟩
  exact padded_outcome_eq_self_iff (exact_of_padded built)

theorem padded_agrees_at_top :
    let launch : Launch 1 := ⟨⟨[18446744073709551612], rfl⟩, ⟨[4], rfl⟩, ⟨[0], rfl⟩, by decide, by decide⟩
    (exact launch.globalRange launch.localRange).outcome = .ok launch ∧
      (∀ dim, (launch.localRange dim).toNat ∣ Word.count) ∧
      (padded launch.globalRange launch.localRange).outcome = .ok launch := by
  intro launch
  have built : (exact launch.globalRange launch.localRange).outcome = .ok launch := by decide
  have divides : ∀ dim, (launch.localRange dim).toNat ∣ Word.count := by decide
  obtain ⟨agrees, _, room, _⟩ := @padded_agrees_iff 1 launch.globalRange launch.localRange launch
  exact ⟨built, divides, (agrees built).mpr (room launch.tiles divides)⟩

/-- The largest word is a multiple of three and the padding of the word two below, but it is not padded
to itself. -/
theorem padded_refuses_multiple :
    ∃ launch : Launch 1,
      (exact ⟨[18446744073709551615], rfl⟩ ⟨[3], rfl⟩).outcome = .ok launch ∧
      (padded ⟨[18446744073709551613], rfl⟩ ⟨[3], rfl⟩).outcome = .ok launch ∧
      padded launch.globalRange ⟨[3], rfl⟩ = .fail (.rangeOverflow 0 18446744073709551615 3) := by
  refine ⟨⟨⟨[18446744073709551615], rfl⟩, ⟨[3], rfl⟩, ⟨[0], rfl⟩, ?_, ?_⟩, ?_, ?_, ?_⟩ <;> decide

end LaunchGeometry.Launch
