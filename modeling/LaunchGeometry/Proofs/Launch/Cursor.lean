import LaunchGeometry.Launch.Items
import LaunchGeometry.Proofs.RowMajor.Order

/-! A cursor as the list of its pending items.

The items of a launch are the points of its global range, each shifted by the
offset. A cursor at a position stands for the items from that position on:
`next` takes the first of them, and a run takes as many as there are.
-/

set_option autoImplicit false

namespace LaunchGeometry

open Coords

variable {D : Nat}

namespace Launch

/-- The points of the global range in row-major order, shifted by the offset. -/
def items (launch : Launch D) : List (Point D) := (points launch.globalRange).map (· + launch.offset)

@[simp] theorem length_items (launch : Launch D) : launch.items.length = launch.size.toNat := by
  rw [items, List.length_map, length_points, toNat_size]

-- What the counter decodes to is the item that stands at its position.
theorem getElem?_items {launch : Launch D} {position : Word} (inside : position < launch.size) :
    launch.items[position.toNat]? = some (launch.idAt position inside) := by
  have nonzero := nonzero_of_lt_size inside
  obtain ⟨point, decoded⟩ := delinearize_eq_ok nonzero position
  obtain ⟨within, ranked⟩ := (delinearize_eq_ok_iff nonzero).mp decoded
  have below := UInt64.lt_iff_toNat_lt.mp inside
  rw [toNat_size] at below
  rw [Nat.mod_eq_of_lt below] at ranked
  rw [idAt, certain_eq _ decoded, items, List.getElem?_map, ← ranked, getElem?_points_rank within]
  rfl

end Launch

namespace ItemCursor

def pending (cursor : ItemCursor D) : List (Point D) := cursor.launch.items.drop cursor.position.toNat

@[simp] theorem pending_start (launch : Launch D) : (start launch).pending = launch.items := rfl

theorem toNat_remaining (cursor : ItemCursor D) :
    cursor.remaining.toNat = cursor.launch.size.toNat - cursor.position.toNat :=
  UInt64.toNat_sub_of_le _ _ cursor.bounded

@[simp] theorem length_pending (cursor : ItemCursor D) : cursor.pending.length = cursor.remaining.toNat := by
  rw [pending, List.length_drop, Launch.length_items, toNat_remaining]

theorem toNat_succ_of_lt {position size : Word} (inside : position < size) :
    (position + 1).toNat = position.toNat + 1 := by
  have bound := UInt64.toNat_lt size
  rw [UInt64.lt_iff_toNat_lt] at inside
  rw [UInt64.toNat_add, UInt64.toNat_one]
  omega

theorem pending_of_lt {cursor : ItemCursor D} (inside : cursor.position < cursor.launch.size) :
    cursor.pending = cursor.launch.idAt cursor.position inside ::
      cursor.launch.items.drop (cursor.position.toNat + 1) := by
  have here := Launch.getElem?_items inside
  obtain ⟨bound, same⟩ := List.getElem?_eq_some_iff.mp here
  rw [pending, List.drop_eq_getElem_cons bound, same]

theorem pending_of_not_lt {cursor : ItemCursor D} (past : ¬ cursor.position < cursor.launch.size) :
    cursor.pending = [] := by
  rw [UInt64.not_lt, UInt64.le_iff_toNat_le] at past
  rw [pending, List.drop_eq_nil_iff, Launch.length_items]
  exact past

theorem next_fst (cursor : ItemCursor D) : cursor.next.1 = cursor.pending.head? := by
  unfold next
  split
  next inside => rw [pending_of_lt inside, List.head?_cons]
  next past => rw [pending_of_not_lt past, List.head?_nil]

theorem pending_next (cursor : ItemCursor D) : cursor.next.2.pending = cursor.pending.tail := by
  unfold next
  split
  next inside =>
    rw [pending_of_lt inside, List.tail_cons, pending, toNat_succ_of_lt inside]
  next past => rw [pending_of_not_lt past, List.tail_nil]

@[simp] theorem launch_next (cursor : ItemCursor D) : cursor.next.2.launch = cursor.launch := by
  unfold next
  split <;> rfl

theorem next_of_pending_cons {cursor : ItemCursor D} {id : Point D} {ids : List (Point D)}
    (pending : cursor.pending = id :: ids) : ∃ rest, cursor.next = (some id, rest) ∧ rest.pending = ids := by
  refine ⟨cursor.next.2, Prod.ext ?_ rfl, ?_⟩
  · rw [next_fst, pending, List.head?_cons]
  · rw [pending_next, pending, List.tail_cons]

theorem next_of_pending_nil {cursor : ItemCursor D} (done : cursor.pending = []) :
    ∃ rest, cursor.next = (none, rest) ∧ rest.pending = [] := by
  refine ⟨cursor.next.2, Prod.ext ?_ rfl, ?_⟩
  · rw [next_fst, done, List.head?_nil]
  · rw [pending_next, done, List.tail_nil]

theorem nth_eq (skipped : Nat) (cursor : ItemCursor D) :
    (cursor.nth skipped).1 = (cursor.pending.drop skipped).head? ∧
      (cursor.nth skipped).2.pending = (cursor.pending.drop skipped).tail := by
  induction skipped generalizing cursor with
  | zero => exact ⟨next_fst cursor, pending_next cursor⟩
  | succ skipped ih =>
    cases pending : cursor.pending with
    | nil =>
      obtain ⟨rest, stopped, done⟩ := next_of_pending_nil pending
      simp [nth, stopped, done]
    | cons id ids =>
      obtain ⟨rest, answered, left⟩ := next_of_pending_cons pending
      obtain ⟨answer, final⟩ := ih rest
      simp [nth, answered, answer, final, left]

theorem launch_nth (skipped : Nat) (cursor : ItemCursor D) :
    (cursor.nth skipped).2.launch = cursor.launch := by
  induction skipped generalizing cursor with
  | zero => exact launch_next cursor
  | succ skipped ih =>
    rw [← launch_next cursor, nth]
    split
    next id rest answered => rw [ih, answered]
    next rest stopped => rw [stopped]

theorem take_eq (count : Nat) (cursor : ItemCursor D) :
    (cursor.take count).1 = cursor.pending.take count ∧
      (cursor.take count).2.pending = cursor.pending.drop count := by
  induction count generalizing cursor with
  | zero => simp [take]
  | succ count ih =>
    cases pending : cursor.pending with
    | nil =>
      obtain ⟨rest, stopped, done⟩ := next_of_pending_nil pending
      simp [take, stopped, done]
    | cons id ids =>
      obtain ⟨rest, answered, left⟩ := next_of_pending_cons pending
      obtain ⟨answers, final⟩ := ih rest
      simp [take, answered, answers, final, left]

@[simp] theorem launch_take (count : Nat) (cursor : ItemCursor D) :
    (cursor.take count).2.launch = cursor.launch := by
  induction count generalizing cursor with
  | zero => rfl
  | succ count ih =>
    rw [← launch_next cursor, take]
    split
    next id rest answered => simp [answered, ih]
    next rest stopped => simp [stopped]

-- The counter is recovered from the number of pending items, which a run is known to change.
theorem toNat_position_take (count : Nat) (cursor : ItemCursor D) :
    (cursor.take count).2.position.toNat = min (cursor.position.toNat + count) cursor.launch.size.toNat := by
  have bounded := UInt64.le_iff_toNat_le.mp cursor.bounded
  have final := UInt64.le_iff_toNat_le.mp (cursor.take count).2.bounded
  have left := congrArg List.length (take_eq count cursor).2
  rw [List.length_drop, length_pending, length_pending, toNat_remaining, toNat_remaining] at left
  rw [launch_take] at left final
  omega

/-- Repeating `next` answers the listed items in order, and then none. -/
inductive Collects : ItemCursor D → List (Point D) → Prop where
  | done {cursor rest : ItemCursor D} : cursor.next = (none, rest) → Collects cursor []
  | item {cursor rest : ItemCursor D} {id : Point D} {ids : List (Point D)} :
      cursor.next = (some id, rest) → Collects rest ids → Collects cursor (id :: ids)

theorem Collects.eq_pending {cursor : ItemCursor D} {ids : List (Point D)} (collects : cursor.Collects ids) :
    ids = cursor.pending := by
  induction collects with
  | @done cursor rest stopped =>
    have head := next_fst cursor
    rw [stopped] at head
    exact (List.head?_eq_none_iff.mp head.symm).symm
  | @item cursor rest id ids answered _ ih =>
    have head := next_fst cursor
    have tail := pending_next cursor
    rw [answered] at head tail
    rw [ih, tail]
    exact List.cons_head?_tail head.symm

theorem collects_pending (cursor : ItemCursor D) : cursor.Collects cursor.pending := by
  generalize pending : cursor.pending = ids
  induction ids generalizing cursor with
  | nil =>
    obtain ⟨rest, stopped, _⟩ := next_of_pending_nil pending
    exact .done stopped
  | cons id ids ih =>
    obtain ⟨rest, answered, left⟩ := next_of_pending_cons pending
    exact .item answered (ih rest left)

end ItemCursor

theorem Launch.ids_eq_items (launch : Launch D) : launch.ids = launch.items := by
  rw [ids, (ItemCursor.take_eq _ _).1, ItemCursor.pending_start, ← length_items, List.take_length]

end LaunchGeometry
