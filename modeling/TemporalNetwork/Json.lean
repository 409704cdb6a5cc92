import TemporalNetwork.Double
import TemporalNetwork.Text

/-!
JSON values. Whole numbers and doubles are kept apart, doubles may be infinite or no number, and an
object is an ordered list of fields.
-/

namespace TemporalNetwork

inductive Json where
  | null
  | bool (truth : Bool)
  | int (n : Int)
  | float (x : Double)
  | string (t : Text)
  | array (items : List Json)
  | object (fields : List (Text × Json))
  deriving Repr, Inhabited

namespace Json

/-- Sets a field: a name that is there keeps its place. -/
def setField (fields : List (Text × Json)) (name : Text) (value : Json) :
    List (Text × Json) :=
  match fields with
  | [] => [(name, value)]
  | (known, old) :: rest =>
    if known = name then (known, value) :: rest else (known, old) :: setField rest name value

def field? (fields : List (Text × Json)) (name : Text) : Option Json :=
  (fields.find? (·.1 = name)).map (·.2)

theorem field?_setField (fields : List (Text × Json)) (name asked : Text) (value : Json) :
    field? (setField fields name value) asked =
      if name = asked then some value else field? fields asked := by
  induction fields with
  | nil => by_cases same : name = asked <;> simp [setField, field?, same]
  | cons first rest ih =>
    obtain ⟨known, old⟩ := first
    by_cases found : known = name
    · by_cases same : name = asked <;> simp [setField, field?, found, same]
    · by_cases first : known = asked
      · subst first
        simp [setField, field?, found, Ne.symm found]
      · simp only [field?] at ih
        simp [setField, field?, found, first, ih]

end Json

end TemporalNetwork
