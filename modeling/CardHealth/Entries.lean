/-!
# Named entries

Fields, parameters and variables come as lists of entries with names.  Where a name occurs more than
once, the last entry counts.
-/

namespace CardHealth

/-- The value under a name; of several entries with one name, the last counts. -/
def lastNamed? {κ α : Type} [BEq κ] (name : κ) (entries : List (κ × α)) : Option α :=
  (entries.reverse.find? fun entry => entry.1 == name).map (·.2)

end CardHealth
