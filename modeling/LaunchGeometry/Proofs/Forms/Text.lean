import LaunchGeometry.Coords.Text

/-! Joined numbers can be told apart.

The decimal text of a number consists of digits and is never empty. A separator that starts with
another character therefore shows where each number ends, and a joined text has only one list of
numbers behind it. A text after it that goes on with neither a digit nor the separator leaves this as it is.
-/

set_option autoImplicit false

namespace LaunchGeometry

namespace Text

def IsNumeral (entry : String) : Prop := entry ≠ "" ∧ ∀ char ∈ entry.toList, char.isDigit

/-- A text into which no numeral before it runs on. -/
def EndsNumeral (text : List Char) : Prop := ∀ char ∈ text.head?, char.isDigit = false

theorem toList_toString (number : Nat) : (toString number).toList = Nat.toDigits 10 number := by
  rw [Nat.toString_eq_repr, Nat.toList_repr]

theorem isNumeral_toString (number : Nat) : IsNumeral (toString number) := by
  constructor
  · rw [ne_eq, ← String.toList_eq_nil_iff, toList_toString]
    exact Nat.toDigits_ne_nil
  · intro char inside
    rw [toList_toString] at inside
    exact Nat.isDigit_of_mem_toDigits (by decide) (by decide) inside

theorem isNumeral_of_mem_map {α : Type} {number : α → Nat} {values : List α} {entry : String}
    (listed : entry ∈ values.map fun value => toString (number value)) : IsNumeral entry := by
  obtain ⟨value, -, rfl⟩ := List.mem_map.mp listed
  exact isNumeral_toString (number value)

theorem toString_inj {number other : Nat} (same : toString number = toString other) : number = other := by
  have digits := congrArg String.toList same
  rw [toList_toString, toList_toString] at digits
  calc number
      _ = Nat.ofDigitChars 10 (Nat.toDigits 10 number) 0 := Nat.ofDigitChars_ten_toDigits.symm
      _ = Nat.ofDigitChars 10 (Nat.toDigits 10 other) 0 := by rw [digits]
      _ = other := Nat.ofDigitChars_ten_toDigits

theorem takeWhile_numeral {entry : String} (numeral : IsNumeral entry) {after : List Char}
    (ends : EndsNumeral after) : (entry.toList ++ after).takeWhile Char.isDigit = entry.toList := by
  rw [List.takeWhile_append_of_pos numeral.2]
  cases after with
  | nil => simp
  | cons char rest => rw [List.takeWhile_cons_of_neg (by simpa using ends char rfl), List.append_nil]

theorem numeral_append_inj {entry other : String} (first : IsNumeral entry) (second : IsNumeral other)
    {after rest : List Char} (ends : EndsNumeral after) (stops : EndsNumeral rest)
    (same : entry.toList ++ after = other.toList ++ rest) : entry = other ∧ after = rest := by
  have digits := congrArg (List.takeWhile Char.isDigit) same
  rw [takeWhile_numeral first ends, takeWhile_numeral second stops] at digits
  rw [digits] at same
  exact ⟨String.toList_inj.mp digits, List.append_cancel_left same⟩

def following (separator : String) : List String → List Char
  | [] => []
  | next :: rest => separator.toList ++ (joined separator (next :: rest)).toList

theorem toList_joined_cons (separator entry : String) (rest : List String) :
    (joined separator (entry :: rest)).toList = entry.toList ++ following separator rest := by
  cases rest with
  | nil => simp [following]
  | cons next rest =>
    rw [joined_cons_cons, String.toList_append, String.toList_append, List.append_assoc, following]

theorem IsNumeral.not_endsNumeral_append {entry : String} (numeral : IsNumeral entry) (text : List Char) :
    ¬ EndsNumeral (entry.toList ++ text) := by
  intro ends
  obtain ⟨char, chars, start⟩ := List.exists_cons_of_ne_nil (mt String.toList_eq_nil_iff.mp numeral.1)
  have digit := numeral.2 char (by simp [start])
  rw [ends char (by simp [start])] at digit
  contradiction

/-- A text after which no joined text goes on: it starts with neither a digit nor the separator. -/
structure Closes (separator : String) (text : List Char) : Prop where
  ends : EndsNumeral text
  apart : ¬ separator.toList <+: text

theorem closes_nil {separator : String} (nonempty : separator ≠ "") : Closes separator [] :=
  ⟨by simp [EndsNumeral], by simpa using nonempty⟩

theorem prefix_following (separator next : String) (entries : List String) (text : List Char) :
    separator.toList <+: following separator (next :: entries) ++ text := by
  rw [following, List.append_assoc]
  exact List.prefix_append ..

section

variable {separator : String} (barrier : EndsNumeral separator.toList)
include barrier

theorem endsNumeral_following_append {after : List Char} (closes : Closes separator after) (entries : List String) :
    EndsNumeral (following separator entries ++ after) := by
  cases entries with
  | nil => exact closes.ends
  | cons next rest =>
    have nonempty : separator.toList ≠ [] := fun none => closes.apart (none ▸ List.nil_prefix)
    obtain ⟨char, chars, start⟩ := List.exists_cons_of_ne_nil nonempty
    rw [start] at barrier
    simpa [following, start, EndsNumeral] using barrier

variable {after rest : List Char} (closes : Closes separator after) (stops : Closes separator rest)
include closes stops

-- Where one list ended before the other, the text after it would start with the separator.
theorem following_append_inj {entries others : List String} (numerals : ∀ entry ∈ entries, IsNumeral entry)
    (numeric : ∀ entry ∈ others, IsNumeral entry)
    (same : following separator entries ++ after = following separator others ++ rest) :
    entries = others ∧ after = rest := by
  induction entries generalizing others with
  | nil =>
    cases others with
    | nil => exact ⟨rfl, same⟩
    | cons other others =>
      have starts := prefix_following separator other others rest
      rw [← same] at starts
      exact absurd starts closes.apart
  | cons entry entries ih =>
    cases others with
    | nil =>
      have starts := prefix_following separator entry entries after
      rw [same] at starts
      exact absurd starts stops.apart
    | cons other others =>
      rw [List.forall_mem_cons] at numerals numeric
      rw [following, following, List.append_assoc, List.append_assoc] at same
      have written := List.append_cancel_left same
      rw [toList_joined_cons, toList_joined_cons, List.append_assoc, List.append_assoc] at written
      obtain ⟨rfl, later⟩ := numeral_append_inj numerals.1 numeric.1
        (endsNumeral_following_append barrier closes entries)
        (endsNumeral_following_append barrier stops others) written
      obtain ⟨rfl, ended⟩ := ih numerals.2 numeric.2 later
      exact ⟨rfl, ended⟩

/-- A separator that starts with no digit makes a joined text of numerals readable in one way only, with any text
after it that does not go on with it. -/
theorem joined_append_inj {entries others : List String} (numerals : ∀ entry ∈ entries, IsNumeral entry)
    (numeric : ∀ entry ∈ others, IsNumeral entry)
    (same : (joined separator entries).toList ++ after = (joined separator others).toList ++ rest) :
    entries = others ∧ after = rest := by
  cases entries with
  | nil =>
    cases others with
    | nil => exact ⟨rfl, same⟩
    | cons other others =>
      have numeral := numeric other List.mem_cons_self
      have leading : after = other.toList ++ (following separator others ++ rest) := by
        simpa [toList_joined_cons] using same
      exact absurd (leading ▸ closes.ends) (numeral.not_endsNumeral_append _)
  | cons entry entries =>
    cases others with
    | nil =>
      have numeral := numerals entry List.mem_cons_self
      have leading : rest = entry.toList ++ (following separator entries ++ after) := by
        simpa [toList_joined_cons] using same.symm
      exact absurd (leading ▸ stops.ends) (numeral.not_endsNumeral_append _)
    | cons other others =>
      apply following_append_inj barrier closes stops numerals numeric
      rw [following, following, List.append_assoc, List.append_assoc, same]

end

theorem joined_inj {separator : String} (nonempty : separator ≠ "") (barrier : EndsNumeral separator.toList)
    {entries others : List String} (numerals : ∀ entry ∈ entries, IsNumeral entry)
    (numeric : ∀ entry ∈ others, IsNumeral entry)
    (same : joined separator entries = joined separator others) : entries = others := by
  have closes := closes_nil nonempty
  exact (joined_append_inj barrier closes closes numerals numeric (congrArg (·.toList ++ []) same)).1

end Text

namespace Coords

variable {D E : Nat} {coords : Coords D} {other : Coords E}

theorem isNumeral_of_mem_decimals {entry : String} (listed : entry ∈ coords.decimals) : Text.IsNumeral entry :=
  Text.isNumeral_of_mem_map listed

theorem toList_eq_of_decimals (same : coords.decimals = other.decimals) : coords.toList = other.toList := by
  refine (List.map_inj_right fun first second written => ?_).mp same
  exact UInt64.toNat_inj.mp (Text.toString_inj written)

end Coords

end LaunchGeometry
