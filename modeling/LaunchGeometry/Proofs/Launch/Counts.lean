import LaunchGeometry.Launch.Check
import LaunchGeometry.Proofs.Launch.Construction
import LaunchGeometry.Proofs.Launch.Cursor

/-! The counts of a launch are exact.

Work groups tile the global range, so that the volume of the global range is the
number of groups times the volume of one group. Both factors are bounded by it
unless it is zero. The wrapping size of a group may then differ from its volume,
but no group is launched.
-/

set_option autoImplicit false

namespace LaunchGeometry

open Coords

variable {D : Nat}

theorem Coords.volume_pos {extent : Extent D} (nonzero : extent.Nonzero) : 0 < extent.volume :=
  Nat.pos_of_ne_zero fun empty =>
    have ⟨dim, zero⟩ := volume_eq_zero_iff.mp empty
    nonzero dim zero

theorem Coords.volume_mul_volume {outer inner whole : Extent D}
    (exact : ∀ dim, (outer dim).toNat * (inner dim).toNat = (whole dim).toNat) :
    outer.volume * inner.volume = whole.volume := by
  induction whole using inductionOn with
  | nil => rw [eq_nil outer, eq_nil inner, volume_nil]
  | cons first rest ih =>
    cases outer using consCases with
    | cons outer outers =>
      cases inner using consCases with
      | cons inner inners =>
        have leading : outer.toNat * inner.toNat = first.toNat := exact 0
        have later := ih fun dim => exact dim.succ
        rw [volume_cons, volume_cons, volume_cons, ← leading, ← later, Nat.mul_mul_mul_comm]

theorem Tiles.dvd {localRange globalRange : Extent D} (tiles : Tiles localRange globalRange) (dim : Fin D) :
    (localRange dim).toNat ∣ (globalRange dim).toNat := Word.mod_eq_zero_iff_dvd.mp (tiles dim).2

namespace Launch

theorem localRange_pos (launch : Launch D) (dim : Fin D) : 0 < (launch.localRange dim).toNat :=
  Word.toNat_pos (launch.tiles dim).1

theorem localRange_dvd (launch : Launch D) (dim : Fin D) :
    (launch.localRange dim).toNat ∣ (launch.globalRange dim).toNat := launch.tiles.dvd dim

theorem toNat_groupCounts_mul (launch : Launch D) (dim : Fin D) :
    (launch.groupCounts dim).toNat * (launch.localRange dim).toNat = (launch.globalRange dim).toNat := by
  rw [groupCounts_apply, UInt64.toNat_div, Nat.div_mul_cancel (launch.localRange_dvd dim)]

theorem div_eq_groupCounts (launch : Launch D) :
    launch.globalRange.div launch.localRange = .ok launch.groupCounts := div_eq_quotient ..

theorem volume_groupCounts_mul (launch : Launch D) :
    launch.groupCounts.volume * launch.localRange.volume = launch.globalRange.volume :=
  volume_mul_volume launch.toNat_groupCounts_mul

theorem volume_groupCounts_lt (launch : Launch D) : launch.groupCounts.volume < Word.count := by
  have least := Nat.le_mul_of_pos_right launch.groupCounts.volume (volume_pos launch.nonzero_localRange)
  rw [volume_groupCounts_mul] at least
  exact Nat.lt_of_le_of_lt least launch.fits

-- Where there are work items, no group has more of them than the launch.
theorem toNat_groupSize {launch : Launch D} (occupied : launch.globalRange.Nonzero) :
    launch.groupSize.toNat = launch.localRange.volume := by
  have items := volume_pos occupied
  rw [← volume_groupCounts_mul] at items
  have least := Nat.le_mul_of_pos_left launch.localRange.volume (Nat.pos_of_mul_pos_right items)
  rw [volume_groupCounts_mul] at least
  exact toNat_size_of_lt (Nat.lt_of_le_of_lt least launch.fits)

-- An empty launch is a case of its own: its group size may wrap, but it has no groups.
theorem volume_groupCounts_mul_groupSize (launch : Launch D) :
    launch.groupCounts.volume * launch.groupSize.toNat = launch.size.toNat := by
  rw [toNat_size]
  by_cases occupied : launch.globalRange.Nonzero
  · rw [toNat_groupSize occupied, volume_groupCounts_mul]
  · have empty : launch.globalRange.volume = 0 := by
      rw [volume_eq_zero_iff]
      simpa [Nonzero] using occupied
    have groups : launch.groupCounts.volume = 0 := by
      have product := launch.volume_groupCounts_mul
      rw [empty] at product
      exact (Nat.mul_eq_zero.mp product).resolve_right
        (Nat.ne_of_gt (volume_pos launch.nonzero_localRange))
    rw [empty, groups, Nat.zero_mul]

/-- The check with its division. A zero divisor would be a fault. -/
def attemptCheck (launch : Launch D) (limits : Limits) : Except ZeroDivisor (Except Refusal Unit) :=
  if limits.maxGroupSize < launch.groupSize then
    .ok (.error (.groupTooLarge launch.groupSize limits.maxGroupSize))
  else do
    let groups ← launch.globalRange.div launch.localRange
    match firstDim? fun dim => limits.maxGroupsPerDim < groups dim with
    | some dim => return .error (.tooManyGroups dim (groups dim) limits.maxGroupsPerDim)
    | none => return .ok ()

/-- The dispatch with the division of the check and that of the canonical form. -/
def attemptDispatch (fits : D ≤ 3) (launch : Launch D) (limits : Limits) :
    Except ZeroDivisor (Except Refusal Dispatch) := do
  match ← launch.attemptCheck limits with
  | .error refusal => return .error refusal
  | .ok () =>
    let groups ← (launch.embed fits).globalRange.div (launch.embed fits).localRange
    return Dispatch.ofGroups groups

theorem attemptCheck_eq_ok (launch : Launch D) (limits : Limits) :
    launch.attemptCheck limits = .ok (launch.check limits).outcome := by
  unfold attemptCheck check
  split
  next large => rfl
  next within =>
    rw [div_eq_groupCounts]
    simp only [bind, Except.bind]
    cases firstDim? fun dim => decide (limits.maxGroupsPerDim < launch.groupCounts dim) with
    | some dim => rfl
    | none => rfl

theorem attemptDispatch_eq_ok (fits : D ≤ 3) (launch : Launch D) (limits : Limits) :
    launch.attemptDispatch fits limits = .ok (launch.dispatch fits limits).outcome := by
  rw [attemptDispatch, attemptCheck_eq_ok, dispatch_outcome]
  cases (launch.check limits).outcome with
  | error refusal => rfl
  | ok accepted =>
    simp only [bind, Except.bind]
    rw [div_eq_groupCounts]
    rfl

/-- Nothing that a launch counts is inexact, and nothing that it divides by is zero. -/
structure Sound (launch : Launch D) : Prop where
  localRange_pos : ∀ dim, 0 < (launch.localRange dim).toNat
  localRange_dvd : ∀ dim, (launch.localRange dim).toNat ∣ (launch.globalRange dim).toNat
  volume_lt : launch.globalRange.volume < Word.count
  divides : launch.globalRange.div launch.localRange = .ok launch.groupCounts
  embed_divides : ∀ fits : D ≤ 3, (launch.embed fits).globalRange.div (launch.embed fits).localRange =
    .ok (launch.embed fits).groupCounts
  -- No division of a check or of a dispatch faults, whatever the limits are.
  checks : ∀ limits, launch.attemptCheck limits = .ok (launch.check limits).outcome
  dispatches : ∀ (fits : D ≤ 3) (limits : Limits),
    launch.attemptDispatch fits limits = .ok (launch.dispatch fits limits).outcome
  -- The divisions and the counter behind each step of the enumeration.
  decodes : ∀ position < launch.size, ∃ point, launch.globalRange.delinearize position = .ok point
  advances : ∀ position < launch.size, Word.add? position 1 = some (position + 1)
  -- A run of the enumeration of any length never counts past the end.
  position_take : ∀ count, ((ItemCursor.start launch).take count).2.position.toNat = min count launch.size.toNat
  remaining_take : ∀ count, ((ItemCursor.start launch).take count).2.remaining.toNat =
    launch.size.toNat - min count launch.size.toNat
  groupCounts_mul : ∀ dim,
    (launch.groupCounts dim).toNat * (launch.localRange dim).toNat = (launch.globalRange dim).toNat
  size_eq : launch.size.toNat = launch.globalRange.volume
  volume_groupCounts_lt : launch.groupCounts.volume < Word.count
  volume_groupCounts_mul : launch.groupCounts.volume * launch.groupSize.toNat = launch.size.toNat
  groupSize_eq : launch.globalRange.Nonzero → launch.groupSize.toNat = launch.localRange.volume

theorem position_take_start (launch : Launch D) (count : Nat) :
    ((ItemCursor.start launch).take count).2.position.toNat = min count launch.size.toNat := by
  rw [ItemCursor.toNat_position_take, ItemCursor.start]
  simp

/-- A client can hold a launch of any tiled global range whose volume is one word and of no other
range, and every launch that it holds is sound. -/
theorem reachable_sound :
    (∀ (globalRange localRange : Extent D) (offset : Point D),
      (∃ launch : Launch D, launch.Reachable ∧
        launch.globalRange = globalRange ∧ launch.localRange = localRange ∧ launch.offset = offset) ↔
      (∀ dim, localRange dim ≠ 0 ∧ (localRange dim).toNat ∣ (globalRange dim).toNat) ∧
        globalRange.volume < Word.count) ∧
    ∀ launch : Launch D, launch.Reachable → launch.Sound := by
  refine ⟨fun globalRange localRange offset => ⟨?_, ?_⟩, fun launch _ => ?_⟩
  · intro held
    obtain ⟨launch, _, rfl, rfl, rfl⟩ := held
    exact ⟨fun dim => ⟨(launch.tiles dim).1, launch.localRange_dvd dim⟩, launch.fits⟩
  · intro sound
    obtain ⟨divides, fits⟩ := sound
    have tiles : Tiles localRange globalRange := fun dim =>
      ⟨(divides dim).1, UInt64.toNat_inj.mp (Nat.mod_eq_zero_of_dvd (divides dim).2)⟩
    exact ⟨⟨globalRange, localRange, offset, tiles, fits⟩, reachable _, rfl, rfl, rfl⟩
  · exact {
      localRange_pos := launch.localRange_pos
      localRange_dvd := launch.localRange_dvd
      volume_lt := launch.fits
      divides := launch.div_eq_groupCounts
      embed_divides := fun fits => (launch.embed fits).div_eq_groupCounts
      checks := launch.attemptCheck_eq_ok
      dispatches := fun fits limits => launch.attemptDispatch_eq_ok fits limits
      decodes := fun position inside => delinearize_eq_ok (nonzero_of_lt_size inside) position
      advances := fun position inside => Word.add?_eq_some_iff.mpr (ItemCursor.toNat_succ_of_lt inside).symm
      position_take := launch.position_take_start
      remaining_take := fun count => by
        rw [ItemCursor.toNat_remaining, ItemCursor.launch_take, position_take_start]
        rfl
      groupCounts_mul := launch.toNat_groupCounts_mul
      size_eq := launch.toNat_size
      volume_groupCounts_lt := launch.volume_groupCounts_lt
      volume_groupCounts_mul := launch.volume_groupCounts_mul_groupSize
      groupSize_eq := toNat_groupSize }

theorem reachable_sound_embedded :
    let empty : Launch 2 :=
      ⟨⟨[0, 4294967296], rfl⟩, ⟨[4294967296, 4294967296], rfl⟩, ⟨[0, 0], rfl⟩, by decide, by decide⟩
    let base : Launch 2 := ⟨⟨[4, 6], rfl⟩, ⟨[2, 3], rfl⟩, ⟨[0, 0], rfl⟩, by decide, by decide⟩
    let occupied := (base.withOffset ⟨[18446744073709551615, 7], rfl⟩).embed (by decide)
    empty.Reachable ∧ empty.groupSize = 0 ∧ empty.localRange.volume = Word.count ∧ empty.Sound ∧
      occupied.Reachable ∧ occupied.globalRange.Nonzero ∧ occupied.Sound ∧ occupied.size = 24 ∧
      (∃ point, occupied.globalRange.delinearize 23 = .ok point) ∧ occupied.groupSize.toNat = 6 := by
  intro empty base occupied
  have vacant : (exact empty.globalRange empty.localRange).outcome = .ok empty := by decide
  have built : (exact base.globalRange base.localRange).outcome = .ok base := by decide
  have held : occupied.Reachable := ((Reachable.exact built).withOffset _).embed _
  have nonzero : occupied.globalRange.Nonzero := by decide
  have counted : occupied.size = 24 := by decide
  have sound := reachable_sound.2 occupied held
  exact ⟨.exact vacant, by decide, by decide, reachable_sound.2 empty (.exact vacant), held, nonzero, sound, counted,
    sound.decodes 23 (by decide), sound.groupSize_eq nonzero⟩

end Launch

end LaunchGeometry
