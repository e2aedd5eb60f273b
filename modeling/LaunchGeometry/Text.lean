/-! The written forms of lists and records. -/

set_option autoImplicit false

namespace LaunchGeometry.Text

def joined (separator : String) : List String → String
  | [] => ""
  | [entry] => entry
  | entry :: rest => entry ++ separator ++ joined separator rest

def tuple (entries : List String) : String := "(" ++ joined ", " entries ++ ")"

def bracketed (entries : List String) : String := "[" ++ joined ", " entries ++ "]"

/-- A record is its name and its fields in order. Without fields it is the name alone. -/
def record (name : String) : List (String × String) → String
  | [] => name
  | fields => name ++ " \x7b " ++ joined ", " (fields.map fun field => field.1 ++ ": " ++ field.2) ++ " \x7d"

@[simp] theorem joined_nil (separator : String) : joined separator [] = "" := rfl

@[simp] theorem joined_singleton (separator entry : String) : joined separator [entry] = entry := rfl

theorem joined_cons_cons (separator entry next : String) (rest : List String) :
    joined separator (entry :: next :: rest) = entry ++ separator ++ joined separator (next :: rest) := rfl

@[simp] theorem record_nil (name : String) : record name [] = name := rfl

end LaunchGeometry.Text
