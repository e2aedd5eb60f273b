import LaunchGeometry.Coords.Json
import Mathlib.Data.List.Basic

/-! A JSON value is read as a vector exactly when it is the form of that vector.

Formats are described by what they make of one element. An array is read up to its first element that is no
word, whatever follows it. Where all of its elements are words, the length is the only further condition.
-/

set_option autoImplicit false

namespace LaunchGeometry

namespace Json

/-- An integer that a component can hold. -/
def IsWord (json : Json) : Prop := ∃ value : Nat, json = .integer value ∧ value < Word.count

def naturals (values : List Nat) : Json := .array (values.map fun value : Nat => .integer value)

theorem naturals_inj {values others : List Nat} (same : naturals values = naturals others) : values = others :=
  (List.map_inj_right fun _ _ equal => Int.ofNat.inj (integer.inj equal)).mp (array.inj same)

theorem isWord_iff {json : Json} : json.IsWord ↔ ∃ word : Word, json = .integer word.toNat := by
  constructor
  · rintro ⟨value, rfl, small⟩
    exact ⟨UInt64.ofNat value, by rw [UInt64.toNat_ofNat_of_lt' small]⟩
  · rintro ⟨word, rfl⟩
    exact ⟨word.toNat, rfl, word.toNat_lt⟩

theorem exists_words {elements : List Json} (good : ∀ element ∈ elements, element.IsWord) :
    ∃ words : List Word, elements = words.map fun word => .integer word.toNat := by
  induction elements with
  | nil => exact ⟨[], rfl⟩
  | cons element rest ih =>
    rw [List.forall_mem_cons] at good
    obtain ⟨word, rfl⟩ := isWord_iff.mp good.1
    obtain ⟨words, rfl⟩ := ih good.2
    exact ⟨word :: words, rfl⟩

theorem toWord_eq_ok_iff {json : Json} {word : Word} : json.toWord = .ok word ↔ json = .integer word.toNat := by
  constructor
  · intro read
    cases json with
    | integer value =>
      rw [toWord] at read
      split at read
      next inside =>
        cases read
        have small : value.toNat < Word.count := (Int.toNat_lt inside.1).mpr inside.2
        rw [UInt64.toNat_ofNat_of_lt' small, Int.toNat_of_nonneg inside.1]
      next => split at read <;> cases read
    | null | bool | decimal | string | array | object => cases read
  · rintro rfl
    have small : word.toNat < 18446744073709551616 := word.toNat_lt
    rw [toWord, if_pos (by omega), Int.toNat_natCast, UInt64.ofNat_toNat]

end Json

/-- What is relied on of a format. A word is read from the integer of its value and from nothing else. A sequence is
read from an array alone, one element after the other until one fails, and it is written as the array of the
values. -/
structure WordFormat.Lawful {Fault : Type} (format : WordFormat Fault) : Prop where
  readWord_eq_ok_iff : ∀ {json word}, format.readWord json = .ok word ↔ json = .integer word.toNat
  readWords_array : ∀ elements, format.readWords (.array elements) = elements.mapM format.readWord
  readWords_other : ∀ {json}, (∀ elements, json ≠ .array elements) → ∃ fault, format.readWords json = .error fault
  writeWords_eq : ∀ words, format.writeWords words = .array (words.map fun word => .integer word.toNat)

namespace WordFormat

theorem plain_lawful : plain.Lawful where
  readWord_eq_ok_iff := Json.toWord_eq_ok_iff
  readWords_array elements := rfl
  readWords_other {json} other := by
    cases json with
    | array elements => exact absurd rfl (other elements)
    | null | bool | integer | decimal | string | object => exact ⟨.invalidType, rfl⟩
  writeWords_eq words := rfl

namespace Lawful

variable {Fault : Type} {format : WordFormat Fault} (lawful : format.Lawful)
include lawful

theorem exists_readWord_error {json : Json} (bad : ¬ json.IsWord) : ∃ fault, format.readWord json = .error fault := by
  cases read : format.readWord json with
  | error fault => exact ⟨fault, rfl⟩
  | ok word => exact absurd (Json.isWord_iff.mpr ⟨word, lawful.readWord_eq_ok_iff.mp read⟩) bad

theorem mapM_integers (words : List Word) :
    (words.map fun word => Json.integer word.toNat).mapM format.readWord = .ok words := by
  induction words with
  | nil => rfl
  | cons word words ih =>
    rw [List.map_cons, List.mapM_cons, lawful.readWord_eq_ok_iff.mpr rfl, ih]
    rfl

theorem mapM_eq_ok_iff {elements : List Json} {words : List Word} :
    elements.mapM format.readWord = .ok words ↔ elements = words.map fun word => .integer word.toNat := by
  refine ⟨fun read => ?_, fun same => same ▸ lawful.mapM_integers words⟩
  induction elements generalizing words with
  | nil =>
    cases read
    rfl
  | cons element rest ih =>
    rw [List.mapM_cons] at read
    cases first : format.readWord element with
    | error fault => simp [first, bind, Except.bind] at read
    | ok word =>
      cases later : rest.mapM format.readWord with
      | error fault => simp [first, later, bind, Except.bind] at read
      | ok tail =>
        rw [first, later] at read
        cases read
        rw [lawful.readWord_eq_ok_iff.mp first, ih later, List.map_cons]

-- The elements after the first one that fails are never read.
theorem mapM_eq_error {before : List Json} (good : ∀ earlier ∈ before, earlier.IsWord) {element : Json}
    {fault : Fault} (failed : format.readWord element = .error fault) (after : List Json) :
    (before ++ element :: after).mapM format.readWord = .error fault := by
  induction before with
  | nil =>
    rw [List.nil_append, List.mapM_cons, failed]
    rfl
  | cons earlier before ih =>
    rw [List.forall_mem_cons] at good
    obtain ⟨word, rfl⟩ := Json.isWord_iff.mp good.1
    rw [List.cons_append, List.mapM_cons, lawful.readWord_eq_ok_iff.mpr rfl, ih good.2]
    rfl

theorem readWords_eq_ok_iff {json : Json} {words : List Word} :
    format.readWords json = .ok words ↔ json = format.writeWords words := by
  rw [lawful.writeWords_eq]
  by_cases listed : ∃ elements, json = .array elements
  · obtain ⟨elements, rfl⟩ := listed
    rw [lawful.readWords_array, lawful.mapM_eq_ok_iff, Json.array.injEq]
  · obtain ⟨fault, failed⟩ := lawful.readWords_other (not_exists.mp listed)
    rw [failed]
    exact iff_of_false nofun fun same => listed ⟨_, same⟩

end Lawful

end WordFormat

namespace Coords

variable {D : Nat} {Fault : Type} {format : WordFormat Fault}

theorem deserialize_of_words {json : Json} {words : List Word} (read : format.readWords json = .ok words) :
    deserialize format D json = if fits : words.length = D then .ok ⟨words, fits⟩
      else .error (format.invalidLength words.length "one value per dimension") := by
  rw [deserialize, read]
  simp only [bind, Except.bind, ofList?]
  split <;> rfl

theorem deserialize_of_fault {json : Json} {fault : Fault} (failed : format.readWords json = .error fault) :
    deserialize format D json = .error fault := by
  rw [deserialize, failed]
  rfl

section

variable (lawful : format.Lawful)
include lawful

theorem deserialize_eq_ok_iff {json : Json} {coords : Coords D} :
    deserialize format D json = .ok coords ↔ json = coords.serialize format := by
  rw [serialize, ← lawful.readWords_eq_ok_iff]
  cases read : format.readWords json with
  | error fault =>
    rw [deserialize_of_fault read]
    exact iff_of_false nofun nofun
  | ok words =>
    rw [deserialize_of_words read, Except.ok.injEq]
    constructor
    · intro accepted
      split at accepted
      next fits =>
        cases accepted
        rfl
      next => cases accepted
    · rintro rfl
      rw [dif_pos coords.length_toList]

theorem serialize_eq_naturals (coords : Coords D) :
    coords.serialize format = Json.naturals (coords.toList.map UInt64.toNat) := by
  rw [serialize, lawful.writeWords_eq, Json.naturals, List.map_map]
  rfl

theorem exists_deserialize_iff {json : Json} :
    (∃ coords, deserialize format D json = .ok coords) ↔
      ∃ values : List Nat, json = Json.naturals values ∧ values.length = D ∧
        ∀ value ∈ values, value < Word.count := by
  constructor
  · rintro ⟨coords, read⟩
    rw [deserialize_eq_ok_iff lawful, serialize_eq_naturals lawful] at read
    refine ⟨coords.toList.map UInt64.toNat, read, by simp, fun value listed => ?_⟩
    obtain ⟨component, -, rfl⟩ := List.mem_map.mp listed
    exact component.toNat_lt
  · rintro ⟨values, rfl, rfl, small⟩
    have exact : (values.map UInt64.ofNat).map UInt64.toNat = values := by
      have fits : ∀ value ∈ values, (UInt64.toNat ∘ UInt64.ofNat) value = id value :=
        fun value listed => UInt64.toNat_ofNat_of_lt' (small value listed)
      rw [List.map_map, List.map_congr_left fits, List.map_id]
    refine ⟨⟨values.map UInt64.ofNat, List.length_map _⟩, ?_⟩
    rw [deserialize_eq_ok_iff lawful, serialize_eq_naturals lawful, exact]

end

/-- In every format, a JSON value is read as a vector exactly when it is an array of one word for each dimension.
What is read is what was written, and the value that was read is written again. The first element that is no word
decides the fault. The length does so only where every element is a word. -/
theorem deserialize_exact (lawful : format.Lawful) (D : Nat) :
    (∀ json, (∃ coords, deserialize format D json = .ok coords) ↔
      ∃ values : List Nat, json = Json.naturals values ∧ values.length = D ∧
        ∀ value ∈ values, value < Word.count) ∧
    (∀ values coords, deserialize format D (Json.naturals values) = .ok coords →
      coords.toList.map UInt64.toNat = values) ∧
    (∀ coords : Coords D, deserialize format D (coords.serialize format) = .ok coords) ∧
    (∀ json coords, deserialize format D json = .ok coords → coords.serialize format = json) ∧
    (∀ before element after, (∀ earlier ∈ before, earlier.IsWord) → ¬ element.IsWord →
      ∃ fault, format.readWord element = .error fault ∧
        deserialize format D (.array (before ++ element :: after)) = .error fault) ∧
    (∀ elements : List Json, (∀ element ∈ elements, element.IsWord) → elements.length ≠ D →
      deserialize format D (.array elements) =
        .error (format.invalidLength elements.length "one value per dimension")) ∧
    ∀ json, (∀ elements, json ≠ .array elements) → ∃ fault, deserialize format D json = .error fault := by
  refine ⟨fun json => exists_deserialize_iff lawful, fun values coords read => ?_,
    fun coords => (deserialize_eq_ok_iff lawful).mpr rfl,
    fun json coords read => ((deserialize_eq_ok_iff lawful).mp read).symm,
    fun before element after good bad => ?_, fun elements good differs => ?_, fun json other => ?_⟩
  · rw [deserialize_eq_ok_iff lawful, serialize_eq_naturals lawful] at read
    exact (Json.naturals_inj read).symm
  · obtain ⟨fault, failed⟩ := lawful.exists_readWord_error bad
    refine ⟨fault, failed, deserialize_of_fault ?_⟩
    rw [lawful.readWords_array, lawful.mapM_eq_error good failed]
  · obtain ⟨words, rfl⟩ := Json.exists_words good
    have read : format.readWords (.array (words.map fun word => .integer word.toNat)) = .ok words := by
      rw [lawful.readWords_array, lawful.mapM_integers]
    rw [List.length_map] at differs ⊢
    rw [deserialize_of_words read, dif_neg differs]
  · obtain ⟨fault, failed⟩ := lawful.readWords_other other
    exact ⟨fault, deserialize_of_fault failed⟩

theorem deserialize_exact_two :
    let written := Json.naturals [18446744073709551615, 0]
    let negative := Json.integer (-1)
    WordFormat.plain.Lawful ∧
      (∃ coords, deserialize .plain 2 written = .ok coords ∧ coords.serialize .plain = written) ∧
      ¬ negative.IsWord ∧
      deserialize .plain 2 (.array ([.integer 1] ++ negative :: [.string "2", .integer 3])) = .error .invalidValue ∧
      deserialize .plain 2 (.array [.integer 1, .integer 2, .integer 3]) =
        .error (.invalidLength "invalid length 3, expected one value per dimension") ∧
      ∃ fault, deserialize .plain 2 (.object [("0", .integer 1), ("1", .integer 2)]) = .error fault := by
  intro written negative
  have lawful := WordFormat.plain_lawful
  have word (value : Nat) (small : value < Word.count) : (Json.integer value).IsWord := ⟨value, rfl, small⟩
  have bad : ¬ negative.IsWord := by
    rintro ⟨value, same, -⟩
    exact absurd (Json.integer.inj same) (by omega)
  have good : ∀ element ∈ [Json.integer 1, .integer 2, .integer 3], element.IsWord := by
    simpa using ⟨word 1 (by decide), word 2 (by decide), word 3 (by decide)⟩
  obtain ⟨accepted, -, -, rewrites, faults, lengths, others⟩ := deserialize_exact lawful 2
  obtain ⟨coords, read⟩ := (accepted written).mpr ⟨_, rfl, rfl, by decide⟩
  obtain ⟨fault, failed, decided⟩ := faults [.integer 1] negative [.string "2", .integer 3]
    (by simpa using word 1 (by decide)) bad
  cases failed
  exact ⟨lawful, ⟨coords, read, rewrites _ _ read⟩, bad, decided, lengths _ good (by decide), others _ nofun⟩

end Coords

end LaunchGeometry
