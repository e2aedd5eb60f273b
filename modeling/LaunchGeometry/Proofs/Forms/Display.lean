import LaunchGeometry.Event
import LaunchGeometry.Launch.Slot
import LaunchGeometry.Proofs.Forms.Text

/-! Displayed vectors can be told apart.

The closing parenthesis is neither a digit nor the start of a separator, so that a displayed vector shows
where it ends, whatever text stands after it. A message with two vectors in it therefore identifies both.
An event is identified by its wording together with its fields.
-/

set_option autoImplicit false

namespace LaunchGeometry

variable {D E : Nat}

theorem Text.closes_parenthesis (text : List Char) : Closes ", " (')' :: text) := by
  constructor
  · simp [EndsNumeral]
  · simp

namespace Coords

variable {coords : Coords D} {other : Coords E}

theorem toList_display (coords : Coords D) :
    coords.display.toList = '(' :: ((Text.joined ", " coords.decimals).toList ++ [')']) := by
  rw [display, Text.tuple, String.toList_append, String.toList_append]
  rfl

theorem display_append_inj {after rest : List Char}
    (same : coords.display.toList ++ after = other.display.toList ++ rest) :
    coords.toList = other.toList ∧ after = rest := by
  rw [toList_display, toList_display, List.cons_append, List.cons_append, List.append_assoc,
    List.append_assoc] at same
  have written := (List.cons.inj same).2
  obtain ⟨decimals, closed⟩ := Text.joined_append_inj (by simp [Text.EndsNumeral])
    (Text.closes_parenthesis after) (Text.closes_parenthesis rest)
    (fun entry => isNumeral_of_mem_decimals) (fun entry => isNumeral_of_mem_decimals) written
  exact ⟨toList_eq_of_decimals decimals, (List.cons.inj closed).2⟩

theorem dim_eq_of_toList (same : coords.toList = other.toList) : D = E := by
  have lengths := congrArg List.length same
  rwa [length_toList, length_toList] at lengths

theorem display_eq_iff : coords.display = other.display ↔ coords.toList = other.toList := by
  constructor
  · intro same
    exact (display_append_inj (congrArg (·.toList ++ []) same)).1
  · intro same
    rw [display, display, decimals, decimals, same]

end Coords

namespace BelowOffset

-- The empty text at the end is what stands after the second vector.
theorem toList_message (fault : BelowOffset D) :
    fault.message.toList = "global id ".toList ++ (fault.id.display.toList ++
      (" is below the launch offset ".toList ++ (fault.offset.display.toList ++ []))) := by
  rw [message, List.append_nil]
  simp only [String.toList_append, List.append_assoc]
  rfl

theorem message_eq_iff {fault : BelowOffset D} {other : BelowOffset E} :
    fault.message = other.message ↔
      fault.id.toList = other.id.toList ∧ fault.offset.toList = other.offset.toList := by
  constructor
  · intro same
    have written := congrArg String.toList same
    rw [toList_message, toList_message] at written
    obtain ⟨ids, later⟩ := Coords.display_append_inj (List.append_cancel_left written)
    exact ⟨ids, (Coords.display_append_inj (List.append_cancel_left later)).1⟩
  · intro same
    rw [message, message, Coords.display_eq_iff.mpr same.1, Coords.display_eq_iff.mpr same.2]

end BelowOffset

namespace Dispatch

theorem toList_inj {dispatch other : Dispatch} : dispatch.toList = other.toList ↔ dispatch = other := by
  obtain ⟨x, y, z⟩ := dispatch
  obtain ⟨x', y', z'⟩ := other
  simp [toList, UInt32.toNat_inj]

theorem display_eq_iff {dispatch other : Dispatch} : dispatch.display = other.display ↔ dispatch = other := by
  constructor
  · intro same
    rw [display, display, Text.bracketed, Text.bracketed, String.append_left_inj, String.append_right_inj] at same
    have counts := Text.joined_inj (by decide) (by simp [Text.EndsNumeral])
      (fun entry => Text.isNumeral_of_mem_map) (fun entry => Text.isNumeral_of_mem_map) same
    exact toList_inj.mp ((List.map_inj_right fun _ _ => Text.toString_inj).mp counts)
  · intro same
    rw [same]

end Dispatch

namespace Event

theorem eq_of_written {event other : Event} (wording : event.message = other.message)
    (values : event.fields = other.fields) : event = other := by
  -- Events of two kinds differ in their wording, and events of one kind in some field.
  cases event with
  | volumeOverflow globalRange =>
    cases other with
    | volumeOverflow otherRange =>
      have ranges : globalRange.toList = otherRange.toList := by
        simpa [fields, Coords.display_eq_iff] using values
      obtain rfl := Coords.dim_eq_of_toList ranges
      rw [Coords.eq_of_toList ranges]
    | _ => simp [message] at wording
  | padded globalRange rounded localRange =>
    cases other with
    | padded otherRange otherRounded otherLocal =>
      obtain ⟨ranges, multiples, locals⟩ : globalRange.toList = otherRange.toList ∧
          rounded.toList = otherRounded.toList ∧ localRange.toList = otherLocal.toList := by
        simpa [fields, Coords.display_eq_iff] using values
      obtain rfl := Coords.dim_eq_of_toList ranges
      rw [Coords.eq_of_toList ranges, Coords.eq_of_toList multiples, Coords.eq_of_toList locals]
    | _ => simp [message] at wording
  | groupTooLarge size max =>
    cases other with
    | groupTooLarge otherSize otherMax => simpa [fields, UInt64.toNat_inj] using values
    | _ => simp [message] at wording
  | tooManyGroups dim groups max =>
    cases other with
    | tooManyGroups otherDim otherGroups otherMax => simpa [fields, UInt64.toNat_inj] using values
    | _ => simp [message] at wording
  | dispatched globalRange localRange dispatch =>
    cases other with
    | dispatched otherRange otherLocal otherDispatch =>
      obtain ⟨ranges, locals, counts⟩ : globalRange.toList = otherRange.toList ∧
          localRange.toList = otherLocal.toList ∧ dispatch = otherDispatch := by
        simpa [fields, Coords.display_eq_iff, Dispatch.display_eq_iff] using values
      obtain rfl := Coords.dim_eq_of_toList ranges
      rw [Coords.eq_of_toList ranges, Coords.eq_of_toList locals, counts]
    | _ => simp [message] at wording
  | undistributable total max =>
    cases other with
    | undistributable otherTotal otherMax => simpa [fields, UInt64.toNat_inj] using values
    | _ => simp [message] at wording
  | aligned bytes alignment rounded =>
    cases other with
    | aligned otherBytes otherAlignment otherRounded => simpa [fields, UInt64.toNat_inj] using values
    | _ => simp [message] at wording

end Event

/-- Two vectors are displayed alike only if they have the same dimension and the same components. Both vectors of a
message about an id before the offset can be told from the message, and everything that an event carries from
the wording and the fields of the event. -/
theorem display_identifies {D E : Nat} :
    (∀ (coords : Coords D) (other : Coords E),
      coords.display = other.display ↔ D = E ∧ coords.toList = other.toList) ∧
    (∀ (fault : BelowOffset D) (other : BelowOffset E), fault.message = other.message ↔
      D = E ∧ fault.id.toList = other.id.toList ∧ fault.offset.toList = other.offset.toList) ∧
    ∀ event other : Event, event.message = other.message ∧ event.fields = other.fields ↔ event = other := by
  refine ⟨fun coords other => ?_, fun fault other => ?_, fun event other => ?_⟩
  · rw [Coords.display_eq_iff]
    exact (and_iff_right_of_imp Coords.dim_eq_of_toList).symm
  · rw [BelowOffset.message_eq_iff]
    exact (and_iff_right_of_imp fun same => Coords.dim_eq_of_toList same.1).symm
  · constructor
    · intro written
      exact Event.eq_of_written written.1 written.2
    · intro same
      exact same ▸ ⟨rfl, rfl⟩

end LaunchGeometry
