import LaunchGeometry.Word

/-! Vectors of one word per dimension.

A point and an extent have the same form: a point names one position, an extent
says how many positions there are along each dimension. Every operation is
given by its components, and effects run from the first dimension to the last.
-/

set_option autoImplicit false

namespace LaunchGeometry

structure Coords (D : Nat) where
  toList : List Word
  length_toList : toList.length = D
  deriving DecidableEq, Repr

abbrev Point := Coords
abbrev Extent := Coords

/-- Why a list or a number does not fit the dimensions of a vector. -/
inductive ShapeError where
  | dimensionMismatch (expected actual : Nat)
  | indexOutOfBounds (index dim : Nat)
  deriving DecidableEq, Repr

/-- An access past the last component, which no caller is entitled to. -/
structure IndexPastEnd where
  length : Nat
  index : Nat
  deriving DecidableEq, Repr

def IndexPastEnd.message (fault : IndexPastEnd) : String :=
  s!"index out of bounds: the len is {fault.length} but the index is {fault.index}"

namespace Coords

attribute [simp] length_toList

variable {D : Nat}

def get (coords : Coords D) (dim : Fin D) : Word :=
  coords.toList.get ⟨dim.val, coords.length_toList.symm ▸ dim.isLt⟩

instance : CoeFun (Coords D) fun _ => Fin D → Word := ⟨get⟩

theorem getElem_toList (coords : Coords D) (dim : Nat) (listed : dim < coords.toList.length)
    (bound : dim < D) : coords.toList[dim] = coords ⟨dim, bound⟩ := rfl

theorem eq_of_toList {a b : Coords D} (same : a.toList = b.toList) : a = b := by
  cases a; cases b; simpa using same

theorem toList_inj {a b : Coords D} : a.toList = b.toList ↔ a = b :=
  ⟨eq_of_toList, congrArg toList⟩

theorem mem_toList_iff {coords : Coords D} {component : Word} :
    component ∈ coords.toList ↔ ∃ dim, coords dim = component := by
  rw [List.mem_iff_getElem]
  constructor
  · rintro ⟨dim, bound, here⟩
    exact ⟨⟨dim, coords.length_toList ▸ bound⟩, here⟩
  · rintro ⟨dim, here⟩
    exact ⟨dim, by simp, here⟩

@[ext] theorem ext {a b : Coords D} (same : ∀ dim, a dim = b dim) : a = b := by
  apply eq_of_toList
  apply List.ext_getElem (by simp)
  intro dim first second
  exact same ⟨dim, a.length_toList ▸ first⟩

def nil : Coords 0 := ⟨[], rfl⟩

def cons (component : Word) (coords : Coords D) : Coords (D + 1) :=
  ⟨component :: coords.toList, by simp⟩

def head (coords : Coords (D + 1)) : Word := coords ⟨0, Nat.zero_lt_succ D⟩

def tail (coords : Coords (D + 1)) : Coords D := ⟨coords.toList.tail, by simp⟩

def ofFn (component : Fin D → Word) : Coords D := ⟨List.ofFn component, List.length_ofFn⟩

def fill (D : Nat) (component : Word) : Coords D :=
  ⟨List.replicate D component, List.length_replicate⟩

/-- Run one action per dimension, in order, and collect what they return. -/
def ofFnM {m : Type → Type} [Monad m] : {D : Nat} → (Fin D → m Word) → m (Coords D)
  | 0, _ => pure nil
  | _ + 1, component => do
    let first ← component 0
    let rest ← ofFnM fun dim => component dim.succ
    return cons first rest

def ofList? (D : Nat) (components : List Word) : Except ShapeError (Coords D) :=
  if fits : components.length = D then .ok ⟨components, fits⟩
  else .error (.dimensionMismatch D components.length)

def component (coords : Coords D) (dim : Nat) : Except IndexPastEnd Word :=
  if bound : dim < D then .ok (coords ⟨dim, bound⟩) else .error ⟨D, dim⟩

def component? (coords : Coords D) (dim : Nat) : Except ShapeError Word :=
  if bound : dim < D then .ok (coords ⟨dim, bound⟩) else .error (.indexOutOfBounds dim D)

def setComponent (coords : Coords D) (dim : Nat) (component : Word) :
    Except IndexPastEnd (Coords D) :=
  if dim < D then .ok ⟨coords.toList.set dim component, by simp⟩ else .error ⟨D, dim⟩

def map (f : Word → Word) (coords : Coords D) : Coords D := ofFn fun dim => f (coords dim)

def zipWith (f : Word → Word → Word) (a b : Coords D) : Coords D := ofFn fun dim => f (a dim) (b dim)

def mapM {m : Type → Type} [Monad m] (f : Word → m Word) (coords : Coords D) : m (Coords D) :=
  ofFnM fun dim => f (coords dim)

def zipWithM {m : Type → Type} [Monad m] (f : Word → Word → m Word) (a b : Coords D) :
    m (Coords D) :=
  ofFnM fun dim => f (a dim) (b dim)

def firstDim? (test : Fin D → Bool) : Option (Fin D) := (List.finRange D).find? test

abbrev Nonzero (coords : Coords D) : Prop := ∀ dim, coords dim ≠ 0

def zeroDim? (coords : Coords D) : Option (Fin D) := firstDim? fun dim => coords dim == 0

@[simp] theorem ofFn_apply (component : Fin D → Word) (dim : Fin D) :
    ofFn component dim = component dim := by
  simp [get, ofFn]

@[simp] theorem fill_apply (component : Word) (dim : Fin D) : fill D component dim = component := by
  simp [get, fill]

@[simp] theorem map_apply (f : Word → Word) (coords : Coords D) (dim : Fin D) :
    coords.map f dim = f (coords dim) := ofFn_apply ..

@[simp] theorem zipWith_apply (f : Word → Word → Word) (a b : Coords D) (dim : Fin D) :
    zipWith f a b dim = f (a dim) (b dim) := ofFn_apply ..

theorem firstDim?_eq_none_iff {test : Fin D → Bool} :
    firstDim? test = none ↔ ∀ dim, test dim = false := by
  simp [firstDim?, List.mem_finRange]

theorem firstDim?_eq_some_iff {test : Fin D → Bool} {dim : Fin D} :
    firstDim? test = some dim ↔ test dim = true ∧ ∀ earlier < dim, test earlier = false := by
  rw [firstDim?, List.find?_eq_some_iff_getElem]
  refine and_congr_right fun _ => ⟨?_, fun before => ⟨dim, by simp, by simp, ?_⟩⟩
  · rintro ⟨position, bound, same, before⟩ earlier less
    have here : position = dim.val := by simpa using congrArg Fin.val same
    simpa using before earlier.val (by omega)
  · intro earlier less
    simpa using before ⟨earlier, by omega⟩ less

theorem zeroDim?_eq_none_iff {coords : Coords D} : coords.zeroDim? = none ↔ coords.Nonzero := by
  simp [zeroDim?, firstDim?_eq_none_iff, Nonzero]

theorem zeroDim?_eq_some_iff {coords : Coords D} {dim : Fin D} :
    coords.zeroDim? = some dim ↔ coords dim = 0 ∧ ∀ earlier < dim, coords earlier ≠ 0 := by
  simp [zeroDim?, firstDim?_eq_some_iff]

theorem eq_nil (coords : Coords 0) : coords = nil := ext fun dim => dim.elim0

theorem exists_eq_cons (coords : Coords (D + 1)) : ∃ first rest, coords = cons first rest := by
  obtain ⟨list, length⟩ := coords
  cases list with
  | nil => simp at length
  | cons first rest => exact ⟨first, ⟨rest, by simpa using length⟩, rfl⟩

/-- Induction over the components, from the last dimension to the first. -/
@[elab_as_elim] theorem inductionOn {motive : {D : Nat} → Coords D → Prop} {D : Nat} (coords : Coords D)
    (nil : motive nil)
    (cons : ∀ {D : Nat} (first : Word) (rest : Coords D), motive rest → motive (cons first rest)) :
    motive coords := by
  induction D with
  | zero => exact eq_nil coords ▸ nil
  | succ D ih =>
    obtain ⟨first, rest, rfl⟩ := exists_eq_cons coords
    exact cons first rest (ih rest)

@[elab_as_elim] theorem consCases {motive : Coords (D + 1) → Prop} (coords : Coords (D + 1))
    (cons : ∀ first rest, motive (cons first rest)) : motive coords := by
  obtain ⟨first, rest, rfl⟩ := exists_eq_cons coords
  exact cons first rest

@[simp] theorem cons_zero (first : Word) (rest : Coords D) : cons first rest 0 = first := rfl

@[simp] theorem cons_succ (first : Word) (rest : Coords D) (dim : Fin D) :
    cons first rest dim.succ = rest dim := rfl

@[simp] theorem head_cons (first : Word) (rest : Coords D) : (cons first rest).head = first := rfl

@[simp] theorem tail_cons (first : Word) (rest : Coords D) : (cons first rest).tail = rest := rfl

theorem cons_inj {first other : Word} {rest tail : Coords D} :
    cons first rest = cons other tail ↔ first = other ∧ rest = tail := by
  simp [cons, ← toList_inj]

theorem zipWith_cons (f : Word → Word → Word) (first second : Word) (a b : Coords D) :
    zipWith f (cons first a) (cons second b) = cons (f first second) (zipWith f a b) := by
  refine ext fun dim => ?_
  cases dim using Fin.cases <;> simp

theorem ofFnM_eq_ok_iff {ε : Type} {action : Fin D → Except ε Word} {coords : Coords D} :
    ofFnM action = .ok coords ↔ ∀ dim, action dim = .ok (coords dim) := by
  induction D with
  | zero =>
    rw [eq_nil coords]
    exact iff_of_true rfl fun dim => dim.elim0
  | succ D ih =>
    obtain ⟨first, rest, rfl⟩ := exists_eq_cons coords
    have step : ofFnM action = .ok (cons first rest) ↔
        action 0 = .ok first ∧ ofFnM (fun dim => action dim.succ) = .ok rest := by
      rw [ofFnM]
      cases action 0 <;> cases ofFnM fun dim => action dim.succ <;>
        simp [bind, Except.bind, pure, Except.pure, cons_inj]
    rw [step, ih, Fin.forall_fin_succ]
    rfl

theorem ofFnM_eq_error_iff {ε : Type} {action : Fin D → Except ε Word} {error : ε} :
    ofFnM action = .error error ↔
      ∃ dim, action dim = .error error ∧ ∀ earlier < dim, ∃ component, action earlier = .ok component := by
  induction D with
  | zero => exact iff_of_false (by simp [ofFnM, pure, Except.pure]) fun ⟨dim, _⟩ => dim.elim0
  | succ D ih =>
    rw [ofFnM, Fin.exists_fin_succ]
    cases first : action 0 with
    | error fault => simp [bind, Except.bind, Fin.forall_fin_succ, first]
    | ok component =>
      have step : (do let rest ← ofFnM fun dim => action dim.succ; pure (cons component rest)) =
          (.error error : Except ε (Coords (D + 1))) ↔ ofFnM (fun dim => action dim.succ) = .error error := by
        cases ofFnM fun dim => action dim.succ <;> simp [bind, Except.bind, pure, Except.pure]
      change (do let rest ← ofFnM fun dim => action dim.succ; pure (cons component rest)) = _ ↔ _
      rw [step, ih]
      simp [Fin.forall_fin_succ, first]

end Coords

end LaunchGeometry
