import TemporalNetwork.Decimal
import TemporalNetwork.Value.Key

/-!
Properties of nodes and edges: entries in the order of their first setting. They are merged with a
dict, or with any value whose items are pairs; a fault on the way leaves the entries before it in
place.
-/

namespace TemporalNetwork

abbrev Properties := List (Value × Value)

namespace Properties

inductive Fault where
  | notIterable (kind : Value.Kind)
  | notSequence (index : Nat)
  | notPair (index length : Nat)
  | unhashable (kind : Value.Kind)
  deriving DecidableEq, Repr

def Fault.message : Fault → String
  | .notIterable kind => "'" ++ kind.name ++ "' object is not iterable"
  | .notSequence index =>
    "cannot convert dictionary update sequence element #" ++ Decimal.ofNat index ++
      " to a sequence"
  | .notPair index length =>
    "dictionary update sequence element #" ++ Decimal.ofNat index ++ " has length " ++
      Decimal.ofNat length ++ "; 2 is required"
  | .unhashable kind => "unhashable type: '" ++ kind.name ++ "'"

def items? : Value → Option (List Value)
  | .text t => some (t.points.map fun point => .text (.ofPoints [point]))
  | .bytes content => some (content.map fun byte => .int byte.toNat)
  | .buffer content => some (content.map fun byte => .int byte.toNat)
  | .list items => some items
  | .tuple items => some items
  | .dict entries => some (entries.map (·.1))
  | .object _ items => items
  | _ => none

def mergePairs (properties : Properties) (index : Nat) :
    List Value → Properties × Option Fault
  | [] => (properties, none)
  | item :: rest =>
    match items? item with
    | none => (properties, some (.notSequence index))
    | some [key, value] =>
      match key.unhashable? with
      | some kind => (properties, some (.unhashable kind))
      | none => mergePairs (Value.insertEntry properties key value) (index + 1) rest
    | some items => (properties, some (.notPair index items.length))

/-- Merges an argument into the properties; whatever is falsy adds nothing. -/
def merge (properties : Properties) (argument : Value) : Properties × Option Fault :=
  if argument.isFalsy then (properties, none)
  else
    match argument with
    | .dict entries =>
      (entries.foldl (fun known entry => Value.insertEntry known entry.1 entry.2) properties, none)
    | argument =>
      match items? argument with
      | none => (properties, some (.notIterable argument.kind))
      | some items => mergePairs properties 0 items

theorem merge_of_isFalsy (properties : Properties) {argument : Value}
    (falsy : argument.isFalsy = true) : merge properties argument = (properties, none) := by
  simp [merge, falsy]

theorem merge_dict_fault (properties : Properties) (entries : List (Value × Value)) :
    (merge properties (.dict entries)).2 = none := by
  simp only [merge]; split <;> rfl

end Properties

end TemporalNetwork
