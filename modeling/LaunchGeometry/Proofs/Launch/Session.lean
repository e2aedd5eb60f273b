import LaunchGeometry.Proofs.Launch.Cursor

/-! Sessions with a cursor.

A client asks a cursor for items and for how many are left, in any order and any
number of times. The list of pending items can answer the same requests: items
are taken from its front and the rest is its length. Cursor and list agree on one
request, and so on every session. The counter of the cursor follows from what a
session has consumed, and no step of it wraps or divides by zero.
-/

set_option autoImplicit false

namespace LaunchGeometry.Session

variable {D : Nat}

inductive Request where
  | next
  | nth (skipped : Nat)
  | len
  | sizeHint
  -- The next item of a copy of the cursor.
  | peek
  deriving DecidableEq, Repr

/-- Numbers of items are exact, so that a cursor and a list can be compared. -/
inductive Answer (D : Nat) where
  | item (id : Option (Point D))
  | count (items : Nat)
  | bounds (lower : Nat) (upper : Option Nat)
  deriving DecidableEq, Repr

def run {σ : Type} (ask : Request → σ → Answer D × σ) : List Request → σ → List (Answer D) × σ
  | [], state => ([], state)
  | request :: requests, state =>
    let (answer, state) := ask request state
    let (answers, state) := run ask requests state
    (answer :: answers, state)

def askCursor : Request → ItemCursor D → Answer D × ItemCursor D
  | .next, cursor => (.item cursor.next.1, cursor.next.2)
  | .nth skipped, cursor => (.item (cursor.nth skipped).1, (cursor.nth skipped).2)
  | .len, cursor => (.count cursor.remaining.toNat, cursor)
  | .sizeHint, cursor => (.bounds cursor.sizeHint.1.toNat (cursor.sizeHint.2.map UInt64.toNat), cursor)
  | .peek, cursor => (.item cursor.next.1, cursor)

def askList : Request → List (Point D) → Answer D × List (Point D)
  | .next, ids => (.item ids.head?, ids.tail)
  | .nth skipped, ids => (.item (ids.drop skipped).head?, (ids.drop skipped).tail)
  | .len, ids => (.count ids.length, ids)
  | .sizeHint, ids => (.bounds ids.length (some ids.length), ids)
  | .peek, ids => (.item ids.head?, ids)

def Request.consumes : Request → Nat
  | .next => 1
  | .nth skipped => skipped + 1
  | .len | .sizeHint | .peek => 0

def consumed : List Request → Nat
  | [] => 0
  | request :: requests => request.consumes + consumed requests

section

variable {σ τ : Type} {ask : Request → σ → Answer D × σ} {answer : Request → τ → Answer D × τ}

@[simp] theorem run_nil (state : σ) : run ask [] state = ([], state) := rfl

@[simp] theorem run_cons (request : Request) (requests : List Request) (state : σ) :
    run ask (request :: requests) state =
      ((ask request state).1 :: (run ask requests (ask request state).2).1,
        (run ask requests (ask request state).2).2) := rfl

/-- States that are asked one request and stay related to what they are viewed as have the same sessions. -/
theorem run_view (view : σ → τ)
    (step : ∀ request state, (ask request state).1 = (answer request (view state)).1 ∧
      view (ask request state).2 = (answer request (view state)).2)
    (requests : List Request) (state : σ) :
    (run ask requests state).1 = (run answer requests (view state)).1 ∧
      view (run ask requests state).2 = (run answer requests (view state)).2 := by
  induction requests generalizing state with
  | nil => exact ⟨rfl, rfl⟩
  | cons request requests ih =>
    obtain ⟨answered, related⟩ := step request state
    obtain ⟨answers, final⟩ := ih (ask request state).2
    rw [related] at answers final
    simp [answered, answers, final]

theorem run_keeps {α : Type} (kept : σ → α) (step : ∀ request state, kept (ask request state).2 = kept state)
    (requests : List Request) (state : σ) : kept (run ask requests state).2 = kept state := by
  induction requests generalizing state with
  | nil => rfl
  | cons request requests ih => rw [run_cons, ih, step]

end

theorem askList_snd (request : Request) (ids : List (Point D)) :
    (askList request ids).2 = ids.drop request.consumes := by
  cases request <;> simp [askList, Request.consumes]

theorem run_askList_snd (requests : List Request) (ids : List (Point D)) :
    (run askList requests ids).2 = ids.drop (consumed requests) := by
  induction requests generalizing ids with
  | nil => rfl
  | cons request requests ih =>
    rw [run_cons, ih, askList_snd, List.drop_drop]
    rfl

-- An item is missing only at the end of the list, whichever request has asked for it.
theorem askList_snd_of_missing {request : Request} {ids : List (Point D)}
    (missing : (askList request ids).1 = .item none) : (askList request ids).2 = [] := by
  cases request with
  | next | peek => simp_all [askList]
  | nth skipped =>
    have skipped_all : ids.drop skipped = [] := by simpa [askList] using missing
    rw [askList, skipped_all, List.tail_nil]
  | len | sizeHint => simp [askList] at missing

theorem run_askList_snd_of_missing {requests : List Request} {ids : List (Point D)}
    (missing : .item none ∈ (run askList requests ids).1) : (run askList requests ids).2 = [] := by
  induction requests generalizing ids with
  | nil => simp at missing
  | cons request requests ih =>
    rw [run_cons, List.mem_cons] at missing
    rcases missing with here | later
    · rw [run_cons, askList_snd_of_missing here.symm, run_askList_snd, List.drop_nil]
    · exact ih later

theorem askCursor_eq (request : Request) (cursor : ItemCursor D) :
    (askCursor request cursor).1 = (askList request cursor.pending).1 ∧
      (askCursor request cursor).2.pending = (askList request cursor.pending).2 := by
  cases request with
  | next => exact ⟨congrArg Answer.item cursor.next_fst, cursor.pending_next⟩
  | nth skipped => exact ⟨congrArg Answer.item (cursor.nth_eq skipped).1, (cursor.nth_eq skipped).2⟩
  | len => exact ⟨congrArg Answer.count cursor.length_pending.symm, rfl⟩
  | sizeHint =>
    refine ⟨?_, rfl⟩
    rw [askList, cursor.length_pending]
    rfl
  | peek => exact ⟨congrArg Answer.item cursor.next_fst, rfl⟩

theorem launch_askCursor (request : Request) (cursor : ItemCursor D) :
    (askCursor request cursor).2.launch = cursor.launch := by
  cases request with
  | next => exact cursor.launch_next
  | nth skipped => exact cursor.launch_nth skipped
  | len | sizeHint | peek => rfl

theorem pending_run (requests : List Request) (cursor : ItemCursor D) :
    (run askCursor requests cursor).2.pending = cursor.pending.drop (consumed requests) := by
  rw [(run_view ItemCursor.pending askCursor_eq requests cursor).2, run_askList_snd]

theorem launch_run (requests : List Request) (cursor : ItemCursor D) :
    (run askCursor requests cursor).2.launch = cursor.launch :=
  run_keeps ItemCursor.launch launch_askCursor requests cursor

theorem next_run_of_pending_nil {cursor : ItemCursor D} (done : cursor.pending = []) (later : List Request) :
    (run askCursor later cursor).2.next.1 = none := by
  rw [ItemCursor.next_fst, pending_run, done, List.drop_nil, List.head?_nil]

/-- A cursor of a launch behind a number of consumed items. Only a cursor with an item left counts on and
takes digits off its position. -/
structure Tracks (launch : Launch D) (items : Nat) (cursor : ItemCursor D) : Prop where
  launch_eq : cursor.launch = launch
  toNat_position : cursor.position.toNat = min items launch.size.toNat
  position_le : cursor.position ≤ cursor.launch.size
  remaining_add : cursor.remaining.toNat + cursor.position.toNat = cursor.launch.size.toNat
  advances : cursor.position < cursor.launch.size → Word.add? cursor.position 1 = some (cursor.position + 1)
  nonzero : cursor.position < cursor.launch.size → cursor.launch.globalRange.Nonzero

-- The counter is not followed through the requests. It is what the number of pending items leaves for it.
theorem tracks_run (launch : Launch D) (requests : List Request) :
    Tracks launch (consumed requests) (run askCursor requests (.start launch)).2 := by
  have same : (run askCursor requests (.start launch)).2.launch = launch := launch_run requests (.start launch)
  have left := congrArg List.length (pending_run requests (.start launch))
  generalize (run askCursor requests (.start launch)).2 = cursor at same left
  have bounded := UInt64.le_iff_toNat_le.mp cursor.bounded
  rw [ItemCursor.length_pending, ItemCursor.toNat_remaining, List.length_drop, ItemCursor.pending_start,
    Launch.length_items] at left
  exact {
    launch_eq := same
    toNat_position := by rw [same] at left bounded; omega
    position_le := cursor.bounded
    remaining_add := by rw [ItemCursor.toNat_remaining]; omega
    advances := fun inside => Word.add?_eq_some_iff.mpr (ItemCursor.toNat_succ_of_lt inside).symm
    nonzero := Launch.nonzero_of_lt_size }

/-- Every session with a cursor is a session with the list of the items of the launch: it has the same
answers, and it leaves the cursor to stand for the items that it leaves of the list. The counter is the number
of items consumed, up to the number of all items, so that no step of the cursor wraps or divides by zero.
A session that has missed an item once is answered no further item. -/
theorem run_refines_list (launch : Launch D) (requests : List Request) :
    let reached := run askCursor requests (.start launch)
    let listed := run askList requests launch.items
    reached.1 = listed.1 ∧ reached.2.pending = listed.2 ∧ Tracks launch (consumed requests) reached.2 ∧
      (.item none ∈ reached.1 → ∀ later, (run askCursor later reached.2).2.next.1 = none) := by
  intro reached listed
  have agrees : reached.1 = listed.1 ∧ reached.2.pending = listed.2 :=
    run_view ItemCursor.pending askCursor_eq requests (.start launch)
  refine ⟨agrees.1, agrees.2, tracks_run launch requests, ?_⟩
  intro missing
  rw [agrees.1] at missing
  have done := run_askList_snd_of_missing missing
  exact next_run_of_pending_nil (agrees.2.trans done)

theorem run_refines_list_drained :
    let launch : Launch 2 :=
      ⟨⟨[2, 2], rfl⟩, ⟨[1, 2], rfl⟩, ⟨[18446744073709551615, 7], rfl⟩, by decide, by decide⟩
    let requests : List Request := [.peek, .next, .sizeHint, .nth 1, .len, .next, .nth 5, .peek]
    let reached := run askCursor requests (.start launch)
    .item none ∈ reached.1 ∧ reached.2.position = 4 ∧ (run askCursor [.nth 1, .len] reached.2).2.next.1 = none := by
  intro launch requests reached
  obtain ⟨_, _, _, drained⟩ := run_refines_list launch requests
  have missing : .item none ∈ reached.1 := by decide
  have counted : reached.2.position = 4 := by decide
  exact ⟨missing, counted, drained missing _⟩

end LaunchGeometry.Session
