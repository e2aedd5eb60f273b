import LaunchGeometry.Event

/-! Computations that report events.

The events stay in the record in the order they happened, whether the
computation returns or fails.
-/

set_option autoImplicit false

namespace LaunchGeometry

instance exceptDecidableEq {ε α : Type} [DecidableEq ε] [DecidableEq α] : DecidableEq (Except ε α)
  | .ok first, .ok second => decidable_of_iff (first = second) (by simp)
  | .error first, .error second => decidable_of_iff (first = second) (by simp)
  | .ok _, .error _ => .isFalse nofun
  | .error _, .ok _ => .isFalse nofun

structure Traced (ε α : Type) where
  events : List Event
  outcome : Except ε α
  deriving DecidableEq

namespace Traced

variable {ε α β : Type}

def ok (value : α) : Traced ε α := ⟨[], .ok value⟩

def fail (error : ε) : Traced ε α := ⟨[], .error error⟩

def failWith (event : Event) (error : ε) : Traced ε α := ⟨[event], .error error⟩

def okWith (event : Event) (value : α) : Traced ε α := ⟨[event], .ok value⟩

def ofExcept (outcome : Except ε α) : Traced ε α := ⟨[], outcome⟩

def bind (first : Traced ε α) (next : α → Traced ε β) : Traced ε β :=
  match first.outcome with
  | .ok value => ⟨first.events ++ (next value).events, (next value).outcome⟩
  | .error error => ⟨first.events, .error error⟩

instance : Monad (Traced ε) where
  pure := ok
  bind := bind

def warnings (computation : Traced ε α) : Nat :=
  computation.events.countP fun event => event.severity = .warn

@[simp] theorem events_ok (value : α) : (ok value : Traced ε α).events = [] := rfl

@[simp] theorem outcome_ok (value : α) : (ok value : Traced ε α).outcome = .ok value := rfl

@[simp] theorem events_fail (error : ε) : (fail error : Traced ε α).events = [] := rfl

@[simp] theorem outcome_fail (error : ε) : (fail error : Traced ε α).outcome = .error error := rfl

@[simp] theorem outcome_failWith (event : Event) (error : ε) :
    (failWith event error : Traced ε α).outcome = .error error := rfl

@[simp] theorem outcome_okWith (event : Event) (value : α) :
    (okWith event value : Traced ε α).outcome = .ok value := rfl

theorem ok_bind (value : α) (next : α → Traced ε β) : ok value >>= next = next value := rfl

theorem failWith_bind (event : Event) (error : ε) (next : α → Traced ε β) :
    failWith event error >>= next = failWith event error := rfl

@[simp] theorem outcome_bind (first : Traced ε α) (next : α → Traced ε β) :
    (first >>= next).outcome = first.outcome >>= fun value => (next value).outcome := by
  cases first with | mk events outcome => cases outcome <;> rfl

end Traced

end LaunchGeometry
