import LaunchGeometry.Proofs.Limits.Distribution

/-! Which numbers of work groups are refused.

A full x, y and z hold the cube of the limit, and nothing above it is distributed.
Below it the rounding sum for z has to be a word as well: it adds the groups of one
layer of x and y, less one, to the groups asked for. Half the words leave room for
every layer. Above them a layer that fills x can be too large, so that a higher
limit refuses what a lower one distributes.
-/

set_option autoImplicit false

namespace LaunchGeometry.Limits

variable {limits : Limits} {total : Word} {dispatch : Dispatch} {groups : Nat}

theorem le_width_or_full (limits : Limits) (groups : Nat) :
    groups ≤ limits.width groups ∨ limits.width groups = limits.dispatchLimit.toNat := by
  unfold width
  omega

theorem le_layer_or_full (asked : 0 < groups) (positive : 0 < limits.dispatchLimit.toNat) :
    groups ≤ limits.layer groups ∨
      limits.width groups = limits.dispatchLimit.toNat ∧ limits.height groups = limits.dispatchLimit.toNat := by
  unfold layer height
  rcases Nat.le_total (groups ⌈/⌉ limits.width groups) limits.dispatchLimit.toNat with narrow | wide
  · rw [Nat.min_eq_left narrow]
    exact .inl (Word.le_mul_ceilDiv groups (width_pos asked positive))
  · rw [Nat.min_eq_right wide]
    rcases limits.le_width_or_full groups with held | full
    · exact .inl (Nat.le_trans held (Nat.le_mul_of_pos_right _ positive))
    · exact .inr ⟨full, rfl⟩

theorem layer_lt_add (filled : 0 < limits.width groups) :
    limits.layer groups < groups + limits.dispatchLimit.toNat :=
  calc
    limits.layer groups ≤ limits.width groups * (groups ⌈/⌉ limits.width groups) :=
      Nat.mul_le_mul_left _ (Nat.min_le_left ..)
    _ < groups + limits.width groups := Word.mul_ceilDiv_lt_add groups filled
    _ ≤ groups + limits.dispatchLimit.toNat := Nat.add_le_add_left (limits.width_le groups) groups

theorem layer_mul_lt_iff :
    limits.layer groups * limits.dispatchLimit.toNat < groups ↔ limits.dispatchLimit.toNat ^ 3 < groups := by
  have cube : limits.dispatchLimit.toNat ^ 3 =
      limits.dispatchLimit.toNat * limits.dispatchLimit.toNat * limits.dispatchLimit.toNat := by
    rw [Nat.pow_succ, Nat.pow_two]
  rw [cube]
  constructor
  · intro short
    have asked := Nat.zero_lt_of_lt short
    rcases Nat.eq_zero_or_pos limits.dispatchLimit.toNat with zero | positive
    · rwa [zero, Nat.mul_zero] at short ⊢
    rcases le_layer_or_full asked positive with held | ⟨wide, high⟩
    · have least := Nat.le_mul_of_pos_right (limits.layer groups) positive
      omega
    · rwa [layer, wide, high] at short
  · exact Nat.lt_of_le_of_lt (Nat.mul_le_mul_right _ (limits.layer_le_square groups))

namespace Distributes

theorem le_cube (positive : 0 < groups) (distributes : limits.Distributes groups dispatch) :
    groups ≤ limits.dispatchLimit.toNat ^ 3 := by
  rw [← Nat.not_lt, ← layer_mul_lt_iff, Nat.not_lt, distributes.layer_eq]
  exact Nat.le_trans (distributes.covers positive) (Nat.mul_le_mul_left _ distributes.z_le)

theorem add_layer_le (positive : 0 < groups) (distributes : limits.Distributes groups dispatch) :
    groups + limits.layer groups ≤ Word.count := by
  have layer := distributes.layer_pos positive
  have fits := distributes.fits
  rw [distributes.layer_eq]
  omega

end Distributes

-- At the first quotient the width stands for the layer, which is at least as large.
theorem excess_of_outcome {refusal : Refusal} (refused : (limits.distribute total).outcome = .error refusal) :
    (∃ dim count, refusal = .tooManyGroups dim count limits.dispatchLimit) ∧
      (limits.dispatchLimit.toNat ^ 3 < total.toNat ∨
        Word.count < total.toNat + limits.layer total.toNat) := by
  have exit := limits.distribute_exit total
  generalize limits.distribute total = result at exit refused
  cases exit with
  | nothing | distributed => simp at refused
  | closed asked closed =>
    cases refused
    exact ⟨⟨_, _, rfl⟩, .inl (by simpa [closed] using asked)⟩
  | rows asked positive large =>
    cases refused
    have width := Nat.le_mul_of_pos_right (limits.width total.toNat) (height_pos asked positive)
    exact ⟨⟨_, _, rfl⟩, .inr (Nat.lt_of_lt_of_le large (Nat.add_le_add_left width _))⟩
  | layers asked positive large =>
    cases refused
    exact ⟨⟨_, _, rfl⟩, .inr large⟩
  | deep asked positive layered deep =>
    cases refused
    refine ⟨⟨_, _, rfl⟩, .inl ?_⟩
    rw [← layered, ← Nat.not_le, ceilDiv_le_iff_le_mul (layer_pos asked positive), Nat.not_le] at deep
    exact layer_mul_lt_iff.mp deep

theorem exists_outcome_iff :
    (∃ dispatch, (limits.distribute total).outcome = .ok dispatch) ↔
      total.toNat ≤ limits.dispatchLimit.toNat ^ 3 ∧
        total.toNat + limits.layer total.toNat ≤ Word.count := by
  constructor
  · intro answered
    obtain ⟨dispatch, answered⟩ := answered
    by_cases zero : total = 0
    · subst zero
      simp [layer, width]
    · have asked := Word.toNat_pos zero
      have distributes := distributes_of_outcome zero answered
      exact ⟨distributes.le_cube asked, distributes.add_layer_le asked⟩
  · intro room
    cases finished : (limits.distribute total).outcome with
    | ok dispatch => exact ⟨dispatch, rfl⟩
    | error refusal =>
      have excess := (excess_of_outcome finished).2
      omega

/-- There is room for a layer below half the number of words, and below any word if the limit is small. -/
theorem add_layer_le_of_room
    (room : 2 * groups + limits.dispatchLimit.toNat ≤ Word.count + 1 ∨
      groups + limits.dispatchLimit.toNat * limits.dispatchLimit.toNat ≤ Word.count) :
    groups + limits.layer groups ≤ Word.count := by
  rcases room with half | full
  · rcases Nat.eq_zero_or_pos (limits.width groups) with empty | filled
    · rw [layer, empty, Nat.zero_mul]
      omega
    · have below := layer_lt_add filled
      omega
  · have square := limits.layer_le_square groups
    omega

theorem toNat_dispatchLimit_mono {wider : Limits} (wide : limits.maxGroupsPerDim ≤ wider.maxGroupsPerDim) :
    limits.dispatchLimit.toNat ≤ wider.dispatchLimit.toNat := by
  have wide := UInt64.le_iff_toNat_le.mp wide
  rw [toNat_dispatchLimit, toNat_dispatchLimit]
  omega

/-- A distribution is refused exactly if the groups exceed the cube of the limit, or if they and one layer
of x and y exceed the number of words. Every refusal is one of too many groups under the limit. The second
reason falls away below half the number of words and for small limits. Where a higher limit does not meet
it, the higher limit distributes what the lower one does. -/
theorem distribute_refuses_iff (limits : Limits) (total : Word) :
    ((∃ dim count, (limits.distribute total).outcome =
        .error (.tooManyGroups dim count limits.dispatchLimit)) ↔
      limits.dispatchLimit.toNat ^ 3 < total.toNat ∨
        Word.count < total.toNat + limits.layer total.toNat) ∧
    (∀ refusal, (limits.distribute total).outcome = .error refusal →
      ∃ dim count, refusal = .tooManyGroups dim count limits.dispatchLimit) ∧
    (2 * total.toNat + limits.dispatchLimit.toNat ≤ Word.count + 1 ∨
        total.toNat + limits.dispatchLimit.toNat * limits.dispatchLimit.toNat ≤ Word.count →
      total.toNat + limits.layer total.toNat ≤ Word.count) ∧
    (∀ wider : Limits, limits.maxGroupsPerDim ≤ wider.maxGroupsPerDim →
      total.toNat + wider.layer total.toNat ≤ Word.count →
      (∃ dispatch, (limits.distribute total).outcome = .ok dispatch) →
        ∃ dispatch, (wider.distribute total).outcome = .ok dispatch) := by
  refine ⟨⟨?_, ?_⟩, fun refusal refused => (excess_of_outcome refused).1, add_layer_le_of_room, ?_⟩
  · intro refused
    obtain ⟨dim, count, refused⟩ := refused
    exact (excess_of_outcome refused).2
  · intro excess
    cases finished : (limits.distribute total).outcome with
    | ok dispatch =>
      have room := exists_outcome_iff.mp ⟨dispatch, finished⟩
      omega
    | error refusal =>
      obtain ⟨dim, count, rfl⟩ := (excess_of_outcome finished).1
      exact ⟨dim, count, rfl⟩
  · intro wider wide room answered
    have cube := (exists_outcome_iff.mp answered).1
    have wide := Nat.pow_le_pow_left (toNat_dispatchLimit_mono wide) 3
    exact exists_outcome_iff.mpr ⟨Nat.le_trans cube wide, room⟩

theorem distribute_refuses_beyond_room :
    let largest : Limits := { maxGroupsPerDim := 18446744073709551615 }
    (¬ ∃ dim count, (largest.distribute 9223372034707292161).outcome =
        .error (.tooManyGroups dim count largest.dispatchLimit)) ∧
      ∃ dim count, (largest.distribute 9223372034707292162).outcome =
        .error (.tooManyGroups dim count largest.dispatchLimit) := by
  intro largest
  obtain ⟨refused, _, room, _⟩ := distribute_refuses_iff largest 9223372034707292161
  have within : ¬ largest.dispatchLimit.toNat ^ 3 < (9223372034707292161 : Word).toNat := by decide
  have fits := room (.inl (by decide))
  refine ⟨fun excess => ?_, (distribute_refuses_iff largest 9223372034707292162).1.mpr (.inr (by decide))⟩
  rcases refused.mp excess with cube | large
  · exact within cube
  · exact Nat.not_lt.mpr fits large

/-- Half the words are far from the cube of the largest limit, and the layer of 4294967295 by 2147483649
would hold them. A lower limit distributes them, and the largest one refuses. -/
theorem distribute_refuses_half :
    let half : Word := 9223372036854775808
    let largest : Limits := { maxGroupsPerDim := 18446744073709551615 }
    let lower : Limits := { maxGroupsPerDim := 2147483648 }
    half.toNat ≤ largest.dispatchLimit.toNat ^ 3 ∧
      largest.distribute half = .fail (.tooManyGroups 2 half 4294967295) ∧
      lower.maxGroupsPerDim ≤ largest.maxGroupsPerDim ∧
      lower.distribute half = .ok ⟨2147483648, 2147483648, 2⟩ := by
  decide

end LaunchGeometry.Limits
