import LaunchGeometry.Proofs.RowMajor.Rank
import LaunchGeometry.Proofs.RowMajor.Size

/-! Decoding of any word in any extent.

Every dimension takes a remainder before it takes a quotient, so that a zero component faults by
its remainder, whatever the number is. Without zeros every word has a point, also past the volume,
and the position of that point is the word modulo the volume. It does not wrap: the rank is at most
the word that was decoded. An extent with more points than there are words loses nothing of a word.
-/

set_option autoImplicit false

namespace LaunchGeometry.Coords

variable {D : Nat} {extent : Extent D} {point : Point D} {position : Word} {fault : ZeroDivisor}

-- The last zero component is the first to be divided by, and no later step replaces its fault.
theorem takeDigits_eq_error_iff (number : Word) :
    takeDigits extent number = .error fault ↔ fault = .remainder ∧ ∃ dim, extent dim = 0 := by
  induction extent using inductionOn generalizing fault with
  | nil => exact iff_of_false (by simp [takeDigits]) fun ⟨_, dim, _⟩ => dim.elim0
  | cons first rest ih =>
    rw [takeDigits, tail_cons, head_cons, Fin.exists_fin_succ, cons_zero]
    simp only [cons_succ]
    cases earlier : takeDigits rest number with
    | error previous =>
      obtain ⟨rfl, zero⟩ := ih.mp earlier
      simp only [bind, Except.bind, Except.error.injEq, zero, or_true, and_true]
      exact eq_comm
    | ok taken =>
      have nonzero : ¬ ∃ dim, rest dim = 0 := by
        intro zero
        rw [ih.mpr ⟨rfl, zero⟩] at earlier
        contradiction
      by_cases zero : first = 0
      · simp only [bind, Except.bind, zero, Word.rem_zero, Except.error.injEq, true_or, and_true]
        exact eq_comm
      · simp [bind, Except.bind, pure, Except.pure, zero, nonzero]

theorem delinearize_eq_error_iff :
    delinearize extent position = .error fault ↔ fault = .remainder ∧ ∃ dim, extent dim = 0 := by
  rw [delinearize, ← takeDigits_eq_error_iff position]
  cases takeDigits extent position <;> simp [bind, Except.bind, pure, Except.pure]

theorem toNat_linearize_of_delinearize (nonzero : extent.Nonzero)
    (decoded : delinearize extent position = .ok point) :
    (linearize extent point).toNat = position.toNat % extent.volume := by
  obtain ⟨_, ranked⟩ := (delinearize_eq_ok_iff nonzero).mp decoded
  have small := Nat.lt_of_le_of_lt (Nat.mod_le position.toNat extent.volume) (Word.toNat_lt position)
  rw [toNat_linearize, ranked, Nat.mod_eq_of_lt small]

theorem linearize_of_delinearize (nonzero : extent.Nonzero) (large : Word.count ≤ extent.volume)
    (decoded : delinearize extent position = .ok point) : linearize extent point = position := by
  have below := Nat.lt_of_lt_of_le (Word.toNat_lt position) large
  rw [← UInt64.toNat_inj, toNat_linearize_of_delinearize nonzero decoded, Nat.mod_eq_of_lt below]

/-- Decoding faults exactly where a component of the extent is zero, and then by a remainder. Every other
extent decodes every word to a point inside it, and the position of that point is the word modulo the
number of points. With at least as many points as words, it is the word itself. -/
theorem delinearize_round_trips (extent : Extent D) (position : Word) :
    (∀ fault, extent.delinearize position = .error fault ↔ fault = .remainder ∧ ∃ dim, extent dim = 0) ∧
    ((∀ dim, extent dim ≠ 0) →
      ∃ point, extent.delinearize position = .ok point ∧ (∀ dim, point dim < extent dim) ∧
        (extent.linearize point).toNat = position.toNat % ∏ dim, (extent dim).toNat ∧
        (Word.count ≤ ∏ dim, (extent dim).toNat → extent.linearize point = position)) := by
  rw [← volume_eq_prod]
  constructor
  · intro fault
    exact delinearize_eq_error_iff
  · intro nonzero
    obtain ⟨point, decoded⟩ := delinearize_eq_ok nonzero position
    have inside := ((delinearize_eq_ok_iff nonzero).mp decoded).1
    refine ⟨point, decoded, inside, toNat_linearize_of_delinearize nonzero decoded, fun large => ?_⟩
    exact linearize_of_delinearize nonzero large decoded

theorem delinearize_round_trips_largest :
    let wide : Extent 2 := ⟨[8589934592, 4294967296], rfl⟩
    let small : Extent 2 := ⟨[2, 3], rfl⟩
    let empty : Extent 2 := ⟨[2, 0], rfl⟩
    (∀ dim, wide dim ≠ 0) ∧ Word.count ≤ ∏ dim, (wide dim).toNat ∧
      (∃ point, wide.delinearize 18446744073709551615 = .ok point ∧
        wide.linearize point = 18446744073709551615) ∧
      (∀ dim, small dim ≠ 0) ∧
      (∃ point, small.delinearize 10 = .ok point ∧ (small.linearize point).toNat = 4) ∧
      empty.delinearize 10 = .error .remainder := by
  intro wide small empty
  have nonzero : ∀ dim, wide dim ≠ 0 := by decide
  have large : Word.count ≤ ∏ dim, (wide dim).toNat := by decide
  have positive : ∀ dim, small dim ≠ 0 := by decide
  obtain ⟨last, decoded, _, _, same⟩ := (delinearize_round_trips wide 18446744073709551615).2 nonzero
  obtain ⟨point, taken, _, position, _⟩ := (delinearize_round_trips small 10).2 positive
  refine ⟨nonzero, large, ⟨last, decoded, same large⟩, positive, ⟨point, taken, position.trans (by decide)⟩, ?_⟩
  exact ((delinearize_round_trips empty 10).1 .remainder).mpr ⟨rfl, 1, rfl⟩

end LaunchGeometry.Coords
