import TemporalNetwork.Coercion
import TemporalNetwork.Decimal
import TemporalNetwork.Value.Text

/-!
Reading the fields of a record. All fields are read, so the faults of all of them come together, in
the order of the fields. The report of the faults shows each input, a long one by its two ends.
-/

namespace TemporalNetwork

abbrev Fields := List (String × Value)

structure FieldFault where
  field : String
  fault : Coercion.Fault
  input : Value
  deriving Repr

abbrev Checked (α : Type) := Except (List FieldFault) α

namespace Fields

def find? (fields : Fields) (name : String) : Option Value :=
  (List.find? (·.1 = name) fields).map (·.2)

def optional (fields : Fields) (name : String) (default : α)
    (read : Value → Except Coercion.Fault α) : Checked α :=
  match fields.find? name with
  | none => .ok default
  | some input => (read input).mapError fun fault => [{ field := name, fault, input }]

/-- A fault of a missing field has all fields for its input. -/
def required (fields : Fields) (name : String) (read : Value → Except Coercion.Fault α) :
    Checked α :=
  match fields.find? name with
  | none =>
    let input := Value.dict (fields.map fun (name, value) => (.text (.whole name), value))
    .error [{ field := name, fault := .missing, input }]
  | some input => (read input).mapError fun fault => [{ field := name, fault, input }]

end Fields

def Checked.and : Checked α → Checked β → Checked (α × β)
  | .ok a, .ok b => .ok (a, b)
  | .ok _, .error faults => .error faults
  | .error faults, .ok _ => .error faults
  | .error faults, .error more => .error (faults ++ more)

theorem Checked.and_eq_ok {first : Checked α} {second : Checked β} {a : α} {b : β} :
    first.and second = .ok (a, b) ↔ first = .ok a ∧ second = .ok b := by
  cases first <;> cases second <;> simp [Checked.and]

namespace FieldFault

/-- Characters from the start that take up at most `room` bytes. -/
def fitting (room : Nat) : List Char → List Char
  | [] => []
  | c :: rest => if c.utf8Size ≤ room then c :: fitting (room - c.utf8Size) rest else []

def shorten (s : String) : String :=
  if s.utf8ByteSize ≤ 50 then s
  else
    let cs := s.toList
    String.ofList (fitting 25 cs) ++ "..." ++ String.ofList (fitting 24 cs.reverse).reverse

def report (fault : FieldFault) : String :=
  "\n" ++ fault.field ++ "\n  " ++ fault.fault.message ++ " [type=" ++ fault.fault.code ++
    ", input_value=" ++ shorten fault.input.display ++ ", input_type=" ++
    fault.input.kind.name ++ "]"

def reportAll (record : String) (faults : List FieldFault) : String :=
  Decimal.ofNat faults.length ++ " validation error" ++
    (if faults.length = 1 then "" else "s") ++ " for " ++ record ++
    String.join (faults.map report)

end FieldFault

end TemporalNetwork
