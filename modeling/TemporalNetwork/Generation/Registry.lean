import TemporalNetwork.Value.Key
import TemporalNetwork.Value.Text

/-!
The generators that can be asked for by name.
-/

namespace TemporalNetwork

inductive Generator where
  | erdosRenyi
  deriving DecidableEq, Repr

namespace Generator

def all : List Generator := [.erdosRenyi]

def name : Generator → String
  | .erdosRenyi => "erdos_renyi"

def names : List String := (all.map name).mergeSort (· ≤ ·)

inductive LookupFault where
  | unhashable (kind : Value.Kind)
  | unknown (name : Value)

def LookupFault.message : LookupFault → String
  | .unhashable kind => "unhashable type: '" ++ kind.name ++ "'"
  | .unknown name =>
    "Unknown generator '" ++ name.plain ++ "'. Available: " ++ String.intercalate ", " names

/-- The generator of a name; any value may be asked for that can be a key. -/
def lookup (asked : Value) : Except LookupFault Generator :=
  match asked.unhashable? with
  | some kind => .error (.unhashable kind)
  | none =>
    match all.find? fun generator => (Value.text generator.name).same asked with
    | some generator => .ok generator
    | none => .error (.unknown asked)

end Generator

end TemporalNetwork
