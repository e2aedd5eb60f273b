import LaunchGeometry.Coords.Basic

/-! Sizes of extents and row-major positions in them.

The last component varies fastest. `volume` is the exact number of positions in
an extent. `size` is that number in wrapping arithmetic and `size?` refuses a
volume of more than one word.
-/

set_option autoImplicit false

namespace LaunchGeometry.Coords

variable {D : Nat}

def product : List Word → Nat
  | [] => 1
  | component :: components => component.toNat * product components

def volume (extent : Extent D) : Nat := product extent.toList

def size (extent : Extent D) : Word := extent.toList.foldl (· * ·) 1

/-- A zero component makes the product zero before any overflow is looked at. -/
def size? (extent : Extent D) : Option Word :=
  if extent.toList.contains 0 then some 0 else extent.toList.foldlM Word.mul? 1

/-- The row-major position of a point. It wraps, and the point may lie outside the extent. -/
def linearize (extent : Extent D) (point : Point D) : Word :=
  (extent.toList.zip point.toList).foldl (fun position step => position * step.1 + step.2) 0

/-- Take one digit per dimension off a number, the last dimension first. What is left of the number
comes back with the digits. -/
def takeDigits : {D : Nat} → Extent D → Word → Except ZeroDivisor (Point D × Word)
  | 0, _, number => .ok (nil, number)
  | _ + 1, extent, number => do
    let (later, rest) ← takeDigits extent.tail number
    let digit ← rest.rem extent.head
    let rest ← rest.div extent.head
    return (cons digit later, rest)

/-- The point at a row-major position. It faults if a component of the extent is zero. -/
def delinearize (extent : Extent D) (position : Word) : Except ZeroDivisor (Point D) := do
  return (← takeDigits extent position).1

@[simp] theorem volume_nil : volume nil = 1 := rfl

@[simp] theorem volume_cons (first : Word) (rest : Extent D) :
    volume (cons first rest) = first.toNat * volume rest := rfl

theorem foldl_mul_toNat (components : List Word) (start : Word) :
    (components.foldl (· * ·) start).toNat =
      start.toNat * product components % Word.count := by
  induction components generalizing start with
  | nil => simp [product, Nat.mod_eq_of_lt (Word.toNat_lt start)]
  | cons component components ih => simp [product, ih, Nat.mul_assoc]

theorem toNat_size (extent : Extent D) : extent.size.toNat = extent.volume % Word.count := by
  simp [size, volume, foldl_mul_toNat]

theorem toNat_size_of_lt {extent : Extent D} (fits : extent.volume < Word.count) :
    extent.size.toNat = extent.volume := by
  rw [toNat_size, Nat.mod_eq_of_lt fits]

theorem volume_eq_zero_iff {extent : Extent D} :
    extent.volume = 0 ↔ ∃ dim, extent dim = 0 := by
  induction extent using inductionOn with
  | nil => simp
  | cons first rest ih =>
    rw [volume_cons, Nat.mul_eq_zero, ih, Fin.exists_fin_succ, ← UInt64.toNat_inj]
    rfl

theorem product_pos_of_not_mem {components : List Word} (nonzero : (0 : Word) ∉ components) :
    0 < product components := by
  induction components with
  | nil => simp [product]
  | cons component components ih =>
    simp only [List.mem_cons, not_or] at nonzero
    have first := Nat.pos_of_ne_zero fun zero => nonzero.1 (UInt64.toNat_inj.mp zero.symm)
    exact Nat.mul_pos first (ih nonzero.2)

/-- Without zero factors an overflow is final, so that the running product is exact or refused. -/
theorem foldlM_mul?_eq_some_iff {components : List Word} {start result : Word}
    (nonzero : (0 : Word) ∉ components) :
    components.foldlM Word.mul? start = some result ↔
      start.toNat * product components = result.toNat := by
  induction components generalizing start with
  | nil => simp [product, UInt64.toNat_inj]
  | cons component components ih =>
    have later : (0 : Word) ∉ components := fun member => nonzero (List.mem_cons_of_mem _ member)
    rw [List.foldlM_cons, product, ← Nat.mul_assoc]
    cases checked : Word.mul? start component with
    | none =>
      have large := Word.mul?_eq_none_iff.mp checked
      have least := Nat.le_mul_of_pos_right (start.toNat * component.toNat) (product_pos_of_not_mem later)
      have bound := Word.toNat_lt result
      simp; omega
    | some exact =>
      rw [Word.mul?_eq_some_iff.mp checked]
      exact ih later

theorem size?_eq_some_iff {extent : Extent D} {count : Word} :
    extent.size? = some count ↔ extent.volume = count.toNat := by
  rw [size?]
  split
  next zero =>
    have empty := volume_eq_zero_iff.mpr (mem_toList_iff.mp (by simpa using zero))
    rw [empty, Option.some_inj, ← UInt64.toNat_inj]
    rfl
  next nonzero =>
    rw [foldlM_mul?_eq_some_iff (by simpa using nonzero)]
    simp [volume]

theorem size?_of_lt {extent : Extent D} (fits : extent.volume < Word.count) : extent.size? = some extent.size :=
  size?_eq_some_iff.mpr (toNat_size_of_lt fits).symm

theorem volume_lt_of_size? {extent : Extent D} {count : Word} (fits : extent.size? = some count) :
    extent.volume < Word.count := by
  rw [size?_eq_some_iff.mp fits]
  exact Word.toNat_lt count

theorem size?_eq_none_iff {extent : Extent D} : extent.size? = none ↔ Word.count ≤ extent.volume := by
  constructor
  · intro refused
    refine Nat.le_of_not_lt fun fits => ?_
    rw [size?_of_lt fits] at refused
    contradiction
  · intro large
    cases counted : extent.size? with
    | none => rfl
    | some count => exact absurd (volume_lt_of_size? counted) (Nat.not_lt.mpr large)

theorem takeDigits_cons (first : Word) (rest : Extent D) (number : Word) (nonzero : first ≠ 0) :
    takeDigits (cons first rest) number =
      (takeDigits rest number).map fun taken => (cons (taken.2 % first) taken.1, taken.2 / first) := by
  rw [takeDigits, tail_cons, head_cons]
  cases takeDigits rest number <;> simp [bind, Except.bind, pure, Except.pure, Except.map, nonzero]

theorem delinearize_eq_ok {extent : Extent D} (nonzero : extent.Nonzero) (position : Word) :
    ∃ point, extent.delinearize position = .ok point := by
  have digits : ∃ taken, extent.takeDigits position = .ok taken := by
    induction extent using inductionOn with
    | nil => exact ⟨_, rfl⟩
    | cons first rest ih =>
      obtain ⟨taken, later⟩ := ih fun dim => nonzero dim.succ
      exact ⟨_, by rw [takeDigits_cons first rest position (nonzero 0), later]; rfl⟩
  obtain ⟨taken, finished⟩ := digits
  exact ⟨taken.1, by rw [delinearize, finished]; rfl⟩

end LaunchGeometry.Coords
