import LaunchGeometry.Proofs.Launch.DispatchLimits
import LaunchGeometry.Proofs.Limits.Capacity

/-! Which calls report their refusal by a limit.

A limit is on the number of work items, on the size of a group or on the number of groups.
A call is logged if it warns once where a limit refuses it and nowhere else, and reports anything
else only on the way to an answer. The constructors and the check are. A dispatch leaves in
silence where a component is too narrow, and a distribution where it does not get as far as the
number of layers: where no group is allowed, and where a rounding sum is no word.
-/

set_option autoImplicit false

namespace LaunchGeometry

open Coords

/-- A refusal for too many work items, for too large a group or for too many groups. -/
def Refusal.byLimit : Refusal → Bool
  | .volumeOverflow | .groupTooLarge .. | .tooManyGroups .. => true
  | .zeroLocalSize .. | .notDivisible .. | .rangeOverflow .. | .allocationOverflow .. | .zeroAlignment => false

namespace Traced

variable {α : Type} {refusal : Refusal} {event : Event}

def notices {ε : Type} (call : Traced ε α) : Nat :=
  call.events.countP fun event => event.severity ≠ .warn

/-- The warnings that are due: one where a limit refuses the call. -/
def dueWarnings (call : Traced Refusal α) : Nat :=
  match call.outcome with
  | .ok _ => 0
  | .error refusal => if refusal.byLimit then 1 else 0

structure Logged (call : Traced Refusal α) : Prop where
  warnings_eq : call.warnings = call.dueWarnings
  notices_le : call.notices ≤ 1
  returned : 0 < call.notices → ∃ value, call.outcome = .ok value

def Silent (call : Traced Refusal α) : Prop :=
  call.events = [] ∧ ∃ refusal, call.outcome = .error refusal ∧ refusal.byLimit = true

theorem Silent.not_logged {call : Traced Refusal α} (silent : call.Silent) : ¬ call.Logged := by
  obtain ⟨nothing, refusal, refused, limited⟩ := silent
  intro logged
  have due := logged.warnings_eq
  rw [warnings, nothing, dueWarnings, refused] at due
  simp [limited] at due

theorem logged_ok (value : α) : (ok value : Traced Refusal α).Logged where
  warnings_eq := rfl
  notices_le := Nat.zero_le 1
  returned := fun _ => ⟨value, rfl⟩

theorem logged_okWith (value : α) (notice : event.severity ≠ .warn) :
    (okWith event value : Traced Refusal α).Logged where
  warnings_eq := by simp [warnings, dueWarnings, okWith, notice]
  notices_le := List.countP_le_length
  returned := fun _ => ⟨value, rfl⟩

theorem logged_fail (free : refusal.byLimit = false) : (fail refusal : Traced Refusal α).Logged where
  warnings_eq := by simp [warnings, dueWarnings, free]
  notices_le := Nat.zero_le 1
  returned := fun reported => absurd reported (Nat.lt_irrefl 0)

theorem logged_failWith (warning : event.severity = .warn) (limited : refusal.byLimit = true) :
    (failWith event refusal : Traced Refusal α).Logged := by
  have none : (failWith event refusal : Traced Refusal α).notices = 0 := by
    simp [notices, failWith, warning]
  exact {
    warnings_eq := by simp [warnings, dueWarnings, failWith, warning, limited]
    notices_le := none ▸ Nat.zero_le 1
    returned := fun reported => absurd reported (by rw [none]; exact Nat.lt_irrefl 0) }

theorem silent_fail (limited : refusal.byLimit = true) : (fail refusal : Traced Refusal α).Silent :=
  ⟨rfl, refusal, rfl, limited⟩

theorem logged_iff_of_silent {call : Traced Refusal α} {condition : Prop} (logged : condition → call.Logged)
    (silent : ¬ condition → call.Silent) : (call.Logged ↔ condition) ∧ (call.Logged ∨ call.Silent) := by
  by_cases holds : condition
  · exact ⟨iff_of_true (logged holds) holds, .inl (logged holds)⟩
  · exact ⟨iff_of_false (silent holds).not_logged holds, .inr (silent holds)⟩

end Traced

open Traced

namespace Launch

variable {D : Nat} (globalRange localRange : Extent D) (launch : Launch D) (limits : Limits)

theorem logged_exact : (exact globalRange localRange).Logged := by
  have exit := exact_exit globalRange localRange
  generalize exact globalRange localRange = call at exit ⊢
  cases exit with
  | zeroLocalSize | notDivisible => exact logged_fail rfl
  | volumeOverflow => exact logged_failWith rfl rfl
  | built => exact logged_ok _

theorem logged_padded : (padded globalRange localRange).Logged := by
  have exit := padded_exit globalRange localRange
  generalize padded globalRange localRange = call at exit ⊢
  cases exit with
  | zeroLocalSize | rangeOverflow => exact logged_fail rfl
  | volumeOverflow => exact logged_failWith rfl rfl
  | kept => exact logged_ok _
  | changed => exact logged_okWith _ (by simp [Event.severity])

theorem check_exit :
    launch.check limits = .ok () ∨
      ∃ event refusal, launch.check limits = .failWith event refusal ∧
        event.severity = .warn ∧ refusal.byLimit = true := by
  unfold check
  split
  next large => exact .inr ⟨_, _, rfl, rfl, rfl⟩
  next within =>
    dsimp only
    split
    next dim found => exact .inr ⟨_, _, rfl, rfl, rfl⟩
    next searched => exact .inl rfl

theorem logged_check : (launch.check limits).Logged := by
  rcases launch.check_exit limits with accepted | ⟨event, refusal, refused, warning, limited⟩
  · rw [accepted]
    exact logged_ok ()
  · rw [refused]
    exact logged_failWith warning limited

theorem check_eq_ok (accepted : (launch.check limits).outcome = .ok ()) : launch.check limits = .ok () := by
  rcases launch.check_exit limits with answered | ⟨event, refusal, refused, _⟩
  · exact answered
  · rw [refused] at accepted
    contradiction

-- Past the check, a component that is refused leaves no event.
theorem logged_dispatch_iff (fits : D ≤ 3) :
    ((launch.dispatch fits limits).Logged ↔
      ((launch.check limits).outcome = .ok () → ∀ dim, launch.groupCounts dim ≤ Dispatch.maxCount)) ∧
    ((launch.dispatch fits limits).Logged ∨ (launch.dispatch fits limits).Silent) := by
  apply logged_iff_of_silent
  · intro narrow
    rcases launch.check_exit limits with accepted | ⟨event, refusal, refused, warning, limited⟩
    · have small := narrow (congrArg Traced.outcome accepted)
      obtain ⟨counts, answered⟩ := (exists_dispatchComponents_iff fits).mpr small
      rw [dispatch, accepted, answered]
      exact logged_okWith counts (by simp [Event.severity])
    · rw [dispatch, refused, failWith_bind]
      exact logged_failWith warning limited
  · intro wide
    obtain ⟨accepted, large⟩ := Classical.not_imp.mp wide
    cases answered : launch.dispatchComponents fits with
    | ok counts => exact absurd ((exists_dispatchComponents_iff fits).mp ⟨counts, answered⟩) large
    | error refusal =>
      obtain ⟨dim, _, rfl⟩ := (dispatchComponents_eq_error_iff fits).mp answered
      rw [dispatch, launch.check_eq_ok limits accepted, answered]
      exact silent_fail rfl

end Launch

namespace Limits

variable (limits : Limits) (total : Word)

/-- A distribution gets as far as the number of layers: a group is allowed where one is asked for, and the
rounding sums are words. -/
def CountsLayers : Prop :=
  (0 < total → 0 < limits.dispatchLimit) ∧ total.toNat + limits.layer total.toNat ≤ Word.count

instance : Decidable (limits.CountsLayers total) :=
  inferInstanceAs (Decidable (_ ∧ _))

theorem logged_distribute (counts : limits.CountsLayers total) : (limits.distribute total).Logged := by
  obtain ⟨allowed, room⟩ := counts
  have exit := limits.distribute_exit total
  generalize limits.distribute total = call at exit ⊢
  cases exit with
  | nothing | distributed => exact logged_ok _
  | closed asked closed =>
    have positive := UInt64.lt_iff_toNat_lt.mp (allowed (UInt64.lt_iff_toNat_lt.mpr asked))
    exact absurd closed (Nat.ne_of_gt positive)
  | rows asked positive large =>
    -- A layer is at least as large as its width.
    have width := Nat.le_mul_of_pos_right (limits.width total.toNat) (height_pos asked positive)
    rw [← layer] at width
    omega
  | layers asked positive large => exact absurd large (Nat.not_lt.mpr room)
  | deep => exact logged_failWith rfl rfl

-- The exit that warns and the exit that answers are behind both quotients, which a large layer does not pass.
theorem silent_distribute (excess : ¬ limits.CountsLayers total) : (limits.distribute total).Silent := by
  unfold distribute
  split
  next zero =>
    subst zero
    exact absurd (by simp [CountsLayers, layer, width]) excess
  next nonzero =>
    dsimp only
    split
    next closed => exact silent_fail rfl
    next allowed =>
      split
      next refused => exact silent_fail rfl
      next rows first =>
        split
        next refused => exact silent_fail rfl
        next z second =>
          obtain ⟨positive, fits, _⟩ := Word.ceilDiv?_eq_some_iff.mp second
          rw [toNat_layer first] at positive fits
          exact absurd ⟨fun _ => UInt64.pos_iff_ne_zero.mpr allowed, by omega⟩ excess

end Limits

namespace Launch

variable {D : Nat} (globalRange localRange : Extent D) (launch : Launch D) (limits : Limits) (total : Word)

/-- Both constructors and the check are logged. A dispatch is logged unless it passes the check and has more
groups than a component holds, and a distribution unless it does not count its layers. Where they are not
logged, they are refused by a limit and report nothing. -/
theorem calls_logged_iff :
    (exact globalRange localRange).Logged ∧ (padded globalRange localRange).Logged ∧
    (launch.check limits).Logged ∧
    (∀ fits : D ≤ 3,
      ((launch.dispatch fits limits).Logged ↔
        ((launch.check limits).outcome = .ok () → ∀ dim, launch.groupCounts dim ≤ Dispatch.maxCount)) ∧
      ((launch.dispatch fits limits).Logged ∨ (launch.dispatch fits limits).Silent)) ∧
    ((limits.distribute total).Logged ↔ limits.CountsLayers total) ∧
    ((limits.distribute total).Logged ∨ (limits.distribute total).Silent) :=
  ⟨logged_exact globalRange localRange, logged_padded globalRange localRange, launch.logged_check limits,
    fun fits => launch.logged_dispatch_iff limits fits,
    logged_iff_of_silent (limits.logged_distribute total) (limits.silent_distribute total)⟩

theorem calls_logged_at_width :
    let fits : 1 ≤ 3 := by decide
    let launch : Launch 1 := ⟨⟨[12884901888], rfl⟩, ⟨[3], rfl⟩, ⟨[7], rfl⟩, by decide, by decide⟩
    let limits : Limits := { maxGroupsPerDim := 4294967296 }
    let width : Limits := { maxGroupsPerDim := 4294967295 }
    launch.groupCounts 0 = 4294967296 ∧ (launch.check limits).outcome = .ok () ∧
      ¬ (launch.dispatch fits limits).Logged ∧
      (width.distribute 4294967296).Logged ∧ (launch.dispatch fits width).Logged := by
  intro fits launch limits width
  have accepted : (launch.check limits).outcome = .ok () := by decide
  have refused : (launch.check width).outcome ≠ .ok () := by decide
  obtain ⟨_, _, _, dispatched, _⟩ := calls_logged_iff launch.globalRange launch.localRange launch limits 0
  obtain ⟨_, _, _, warned, distributed, _⟩ :=
    calls_logged_iff launch.globalRange launch.localRange launch width 4294967296
  refine ⟨by decide, accepted, fun logged => ?_, distributed.mpr (by decide), ?_⟩
  · exact absurd ((dispatched fits).1.mp logged accepted 0) (by decide)
  · exact (warned fits).1.mpr fun passed => absurd passed refused

end Launch

/-- Under a limit of zero, the distribution of one group is refused by the limit without a warning. -/
theorem Limits.distribute_refuses_unlogged :
    let zero : Limits := { maxGroupsPerDim := 0 }
    (zero.distribute 1).outcome = .error (.tooManyGroups 0 1 0) ∧ (zero.distribute 1).warnings = 0 ∧
      ¬ (zero.distribute 1).Logged := by
  intro zero
  have silent : (zero.distribute 1).Silent := silent_fail rfl
  exact ⟨by decide, by decide, silent.not_logged⟩

end LaunchGeometry
