import LaunchGeometry.Coords.Bytes
import Mathlib.Algebra.Order.Floor.Div

/-! Vectors and strings of bytes are in bijection.

The digits of a number to base 256 determine it below the power that they stand for. A word has
eight of them, so that every eight bytes are the bytes of one word, and every string of eight
bytes for each dimension is the form of one vector. Casts that keep to the layout of such a type are
therefore inverse to each other.
-/

set_option autoImplicit false

namespace LaunchGeometry

/-- A layout without padding in which any bytes stand for a value. -/
structure Layout.Lawful {α : Type} (layout : Layout α) : Prop where
  length_bytes : ∀ value, (layout.bytes value).length = layout.size
  value_bytes : ∀ value, layout.value (layout.bytes value) = value
  bytes_value : ∀ {bytes}, bytes.length = layout.size → layout.bytes (layout.value bytes) = bytes

/-- What is relied on of casts in a lawful layout. A value is viewed as it lies in memory, and bytes are taken for
the value that they stand for if there are as many of them as a value has. -/
structure ByteCasts.Lawful {Fault : Type} (casts : ByteCasts Fault) : Prop where
  view_eq : ∀ {α : Type} {layout : Layout α}, layout.Lawful → ∀ value, casts.view layout value = layout.bytes value
  read_eq_ok : ∀ {α : Type} {layout : Layout α}, layout.Lawful → ∀ {bytes}, bytes.length = layout.size →
    casts.read layout bytes = .ok (layout.value bytes)
  read_eq_error : ∀ {α : Type} {layout : Layout α}, layout.Lawful → ∀ {bytes}, bytes.length ≠ layout.size →
    casts.read layout bytes = .error casts.sizeMismatch

theorem ByteCasts.checked_lawful : checked.Lawful where
  view_eq _ _ := rfl
  read_eq_ok _ _ whole := if_pos whole
  read_eq_error _ _ other := if_neg other

namespace Word

theorem valueLittleEndian_littleEndian (count value : Nat) :
    valueLittleEndian (littleEndian count value) = value % 256 ^ count := by
  induction count generalizing value with
  | zero => simp [littleEndian, valueLittleEndian, Nat.mod_one]
  | succ count ih =>
    have digit : (UInt8.ofNat value).toNat = value % 256 := UInt8.toNat_ofNat'
    rw [littleEndian, valueLittleEndian, ih, digit, Nat.pow_succ', Nat.mod_mul]

theorem valueLittleEndian_lt (bytes : List UInt8) : valueLittleEndian bytes < 256 ^ bytes.length := by
  induction bytes with
  | nil => exact Nat.one_pos
  | cons byte bytes ih =>
    have digit := byte.toNat_lt
    rw [valueLittleEndian, List.length_cons, Nat.pow_succ']
    omega

theorem littleEndian_valueLittleEndian (bytes : List UInt8) :
    littleEndian bytes.length (valueLittleEndian bytes) = bytes := by
  induction bytes with
  | nil => rfl
  | cons byte bytes ih =>
    have below := byte.toNat_lt
    have first : UInt8.ofNat (byte.toNat + 256 * valueLittleEndian bytes) = byte := by
      rw [← UInt8.toNat_inj, UInt8.toNat_ofNat']
      omega
    have later : (byte.toNat + 256 * valueLittleEndian bytes) / 256 = valueLittleEndian bytes := by omega
    rw [List.length_cons, valueLittleEndian, littleEndian, first, later, ih]

theorem getElem?_littleEndian {count place : Nat} (inside : place < count) (value : Nat) :
    (littleEndian count value)[place]? = some (UInt8.ofNat (value / 256 ^ place)) := by
  induction count generalizing value place with
  | zero => exact absurd inside (Nat.not_lt_zero place)
  | succ count ih =>
    cases place with
    | zero => simp [littleEndian]
    | succ place =>
      rw [littleEndian, List.getElem?_cons_succ, ih (Nat.lt_of_succ_lt_succ inside), Nat.div_div_eq_div_mul,
        Nat.pow_succ']

theorem ofBytes_toBytes (word : Word) : ofBytes word.toBytes = word := by
  have small : word.toNat < 256 ^ 8 := word.toNat_lt
  rw [ofBytes, toBytes, valueLittleEndian_littleEndian, Nat.mod_eq_of_lt small, UInt64.ofNat_toNat]

theorem toBytes_ofBytes {bytes : List UInt8} (eight : bytes.length = 8) : (ofBytes bytes).toBytes = bytes := by
  have small := valueLittleEndian_lt bytes
  rw [eight] at small
  have exact : (ofBytes bytes).toNat = valueLittleEndian bytes := by
    rw [ofBytes, UInt64.toNat_ofNat']
    exact Nat.mod_eq_of_lt small
  rw [toBytes, exact, ← eight, littleEndian_valueLittleEndian]

theorem layout_lawful : layout.Lawful where
  length_bytes := length_toBytes
  value_bytes := ofBytes_toBytes
  bytes_value := toBytes_ofBytes

end Word

namespace Coords

variable {D : Nat}

theorem bytes_cons (first : Word) (rest : Coords D) :
    (layout (D + 1)).bytes (cons first rest) = Word.layout.bytes first ++ (layout D).bytes rest :=
  List.flatMap_cons

-- The bytes of a later dimension start one word further on than without the first component.
theorem value_append {first : List UInt8} (whole : first.length = Word.layout.size) (bytes : List UInt8) :
    (layout (D + 1)).value (first ++ bytes) = cons (Word.layout.value first) ((layout D).value bytes) := by
  refine ext fun dim => ?_
  simp only [layout, ofFn_apply]
  cases dim using Fin.cases with
  | zero => simp [← whole]
  | succ dim =>
    have later : Word.layout.size * (dim.val + 1) = first.length + Word.layout.size * dim.val := by
      rw [whole, Nat.mul_succ, Nat.add_comm]
    rw [cons_succ, ofFn_apply, Fin.val_succ, later, ← List.drop_drop, List.drop_left]

theorem length_bytes (coords : Coords D) : ((layout D).bytes coords).length = (layout D).size := by
  induction coords using inductionOn with
  | nil => rfl
  | cons first rest ih =>
    rw [bytes_cons, List.length_append, Word.layout_lawful.length_bytes, ih, Nat.add_comm]
    rfl

theorem value_bytes (coords : Coords D) : (layout D).value ((layout D).bytes coords) = coords := by
  induction coords using inductionOn with
  | nil => exact eq_nil _
  | cons first rest ih =>
    rw [bytes_cons, value_append (Word.layout_lawful.length_bytes first), ih, Word.layout_lawful.value_bytes]

theorem bytes_value {bytes : List UInt8} (whole : bytes.length = (layout D).size) :
    (layout D).bytes ((layout D).value bytes) = bytes := by
  induction D generalizing bytes with
  | zero => exact (List.length_eq_zero_iff.mp whole).symm
  | succ D ih =>
    have enough : bytes.length = (layout D).size + Word.layout.size := whole
    have first : (bytes.take Word.layout.size).length = Word.layout.size :=
      List.length_take_of_le (enough ▸ Nat.le_add_left ..)
    have rest : (bytes.drop Word.layout.size).length = (layout D).size := by
      rw [List.length_drop, enough, Nat.add_sub_cancel]
    calc (layout (D + 1)).bytes ((layout (D + 1)).value bytes)
      _ = (layout (D + 1)).bytes ((layout (D + 1)).value
            (bytes.take Word.layout.size ++ bytes.drop Word.layout.size)) := by rw [List.take_append_drop]
      _ = bytes.take Word.layout.size ++ bytes.drop Word.layout.size := by
        rw [value_append first, bytes_cons, Word.layout_lawful.bytes_value first, ih rest]
      _ = bytes := List.take_append_drop ..

theorem layout_lawful (D : Nat) : (layout D).Lawful where
  length_bytes := length_bytes
  value_bytes := value_bytes
  bytes_value := bytes_value

theorem getElem?_bytes (coords : Coords D) (dim : Fin D) {place : Nat} (inside : place < 8) :
    ((layout D).bytes coords)[8 * dim.val + place]? = some (UInt8.ofNat ((coords dim).toNat / 256 ^ place)) := by
  induction coords using inductionOn with
  | nil => exact dim.elim0
  | cons first rest ih =>
    have eight : (Word.layout.bytes first).length = 8 := first.length_toBytes
    rw [bytes_cons]
    cases dim using Fin.cases with
    | zero =>
      rw [Fin.val_zero, Nat.mul_zero, Nat.zero_add, List.getElem?_append_left (eight ▸ inside)]
      exact Word.getElem?_littleEndian inside first.toNat
    | succ dim =>
      have later : 8 * dim.succ.val + place = (Word.layout.bytes first).length + (8 * dim.val + place) := by
        rw [eight, Fin.val_succ]
        omega
      rw [later, List.getElem?_append_right (Nat.le_add_right ..), Nat.add_sub_cancel_left, ih]
      rfl

/-- Vectors of a dimension and strings of eight bytes for each component are in bijection, and no other string
is read. The bytes of a component stand together in the order of the components, the digits of its value to
base 256 from the least significant on. -/
theorem view_bijection {Fault : Type} {casts : ByteCasts Fault} (lawful : casts.Lawful) (D : Nat) :
    (∀ coords, (casts.view (layout D) coords).length = 8 * D ∧
      casts.read (layout D) (casts.view (layout D) coords) = .ok coords) ∧
    (∀ bytes : List UInt8, bytes.length = 8 * D →
      ∃ coords, casts.read (layout D) bytes = .ok coords ∧ casts.view (layout D) coords = bytes) ∧
    (∀ bytes : List UInt8, bytes.length ≠ 8 * D → casts.read (layout D) bytes = .error casts.sizeMismatch) ∧
    ∀ (coords : Coords D) (dim : Fin D), ∀ place < 8, (casts.view (layout D) coords)[8 * dim.val + place]? =
      some (UInt8.ofNat ((coords dim).toNat / 256 ^ place)) := by
  have plain := layout_lawful D
  refine ⟨fun coords => ?_, fun bytes whole => ⟨_, lawful.read_eq_ok plain whole, ?_⟩,
    fun bytes => lawful.read_eq_error plain, fun coords dim place inside => ?_⟩
  · rw [lawful.view_eq plain, lawful.read_eq_ok plain (length_bytes coords), value_bytes]
    exact ⟨length_bytes coords, rfl⟩
  · rw [lawful.view_eq plain, bytes_value whole]
  · rw [lawful.view_eq plain, getElem?_bytes coords dim inside]

theorem view_bijection_two :
    let casts := ByteCasts.checked
    let bytes : List UInt8 := [8, 7, 6, 5, 4, 3, 2, 1, 255, 255, 255, 255, 255, 255, 255, 255]
    let coords : Coords 2 := ⟨[72623859790382856, 18446744073709551615], rfl⟩
    casts.Lawful ∧ bytes.length = 8 * 2 ∧
      (∃ read, casts.read (layout 2) bytes = .ok read ∧ casts.view (layout 2) read = bytes) ∧
      casts.read (layout 2) (casts.view (layout 2) coords) = .ok coords ∧
      (casts.view (layout 2) coords)[15]? = some 255 ∧
      (bytes.drop 1).length ≠ 8 * 2 ∧ casts.read (layout 2) (bytes.drop 1) = .error .sizeMismatch := by
  intro casts bytes coords
  have lawful := ByteCasts.checked_lawful
  have whole : bytes.length = 8 * 2 := by decide
  have short : (bytes.drop 1).length ≠ 8 * 2 := by decide
  obtain ⟨views, reads, refuses, digits⟩ := view_bijection lawful 2
  exact ⟨lawful, whole, reads bytes whole, (views coords).2, (digits coords 1 7 (by decide)).trans (by decide), short,
    refuses (bytes.drop 1) short⟩

end Coords

end LaunchGeometry
