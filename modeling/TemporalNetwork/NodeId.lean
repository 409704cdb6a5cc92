import TemporalNetwork.Value.Key
import TemporalNetwork.Value.Text

/-!
Node ids: whole numbers or texts. A value names a node when it is equal to the node's id, so `1.0`
and `True` name the node `1`.
-/

namespace TemporalNetwork

inductive NodeId where
  | int (n : Int)
  | text (t : Text)
  deriving DecidableEq, Repr, Inhabited

namespace NodeId

inductive Kind where
  | int | text
  deriving DecidableEq, Repr

def Kind.name : Kind → String
  | .int => Value.Kind.int.name
  | .text => Value.Kind.text.name

def kind : NodeId → Kind
  | .int _ => .int
  | .text _ => .text

def toValue : NodeId → Value
  | .int n => .int n
  | .text t => .text t

def display (id : NodeId) : String := id.toValue.display

def fits (id : NodeId) : Bool := id.toValue.fits

def named? : Value → Option NodeId
  | .text t => some (.text t)
  | value => if value.unhashable?.isSome then none else value.wholeNumber?.map .int

/-- Numbers by size and texts by code points, numbers first. -/
def lessEq : NodeId → NodeId → Bool
  | .int m, .int n => m ≤ n
  | .int _, .text _ => true
  | .text _, .int _ => false
  | .text s, .text t => s.lessEq t

def greatest? : List NodeId → Option NodeId
  | [] => none
  | first :: rest => some (rest.foldl (fun best id => if id.lessEq best then best else id) first)

theorem named?_toValue (id : NodeId) : named? id.toValue = some id := by
  cases id <;> rfl

theorem toValue_injective {id other : NodeId} (same : id.toValue = other.toValue) : id = other := by
  have named := congrArg named? same
  rw [named?_toValue, named?_toValue] at named
  exact Option.some.inj named

end NodeId

end TemporalNetwork
