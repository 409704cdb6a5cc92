import TemporalNetwork.Double
import TemporalNetwork.Text

/-!
Values of no fixed type: what callers hand in as times, ids, properties, seeds and probabilities,
and what nodes and edges carry as types and properties. The kinds that the program looks for have
constructors of their own; a value of any other class, such as a set, a range, a view of bytes or a
number of another library, is known by what it answers.

Left out are classes derived from one of the kinds, mappings other than dicts, decimals and
enumerations, objects whose worth is a number that is not whole, what such objects give when one
adds to them, and answers that fail, contradict each other, never end or change something.
-/

namespace TemporalNetwork

/-- The whole number for which an object stands: whether it equals the number, whether it can be
compared with numbers by size, and whether it does where an index is asked for. -/
structure Worth where
  number : Int
  equal : Bool
  ordered : Bool
  index : Bool
  deriving DecidableEq, Repr

/-- What an object of another class answers, but for its items. Equal objects, and no others, have
the same mark. -/
structure Traits where
  className : String
  display : String
  plain : String
  truth : Bool
  hashable : Bool
  mark : Nat
  worth : Option Worth
  /-- What it turns itself into when bytes are asked for. -/
  bytes : Option (List UInt8)
  /-- The bytes that it gives a view of. -/
  view : Option (List UInt8)
  deriving DecidableEq, Repr

namespace Traits

def worthIf (traits : Traits) (condition : Worth → Bool) : Option Int :=
  (traits.worth.filter condition).map (·.number)

def equal? (traits : Traits) : Option Int := traits.worthIf (·.equal)

def ordered? (traits : Traits) : Option Int := traits.worthIf (·.ordered)

def index? (traits : Traits) : Option Int := traits.worthIf (·.index)

def converted? (traits : Traits) : Option Int :=
  traits.worthIf fun worth => worth.ordered || worth.index

end Traits

inductive Value where
  | none
  | bool (truth : Bool)
  | int (n : Int)
  | float (x : Double)
  | text (t : Text)
  | bytes (content : List UInt8)
  | buffer (content : List UInt8)
  | list (items : List Value)
  | tuple (items : List Value)
  | dict (entries : List (Value × Value))
  | object (traits : Traits) (items : Option (List Value))
  deriving Repr, Inhabited

namespace Value

inductive Kind where
  | none | bool | int | float | text | bytes | buffer | list | tuple | dict
  | object (className : String)
  deriving DecidableEq, Repr, Inhabited

def Kind.name : Kind → String
  | .none => "NoneType"
  | .bool => "bool"
  | .int => "int"
  | .float => "float"
  | .text => "str"
  | .bytes => "bytes"
  | .buffer => "bytearray"
  | .list => "list"
  | .tuple => "tuple"
  | .dict => "dict"
  | .object className => className

def kind : Value → Kind
  | .none => .none
  | .bool _ => .bool
  | .int _ => .int
  | .float _ => .float
  | .text _ => .text
  | .bytes _ => .bytes
  | .buffer _ => .buffer
  | .list _ => .list
  | .tuple _ => .tuple
  | .dict _ => .dict
  | .object traits _ => .object traits.className

def isFalsy : Value → Bool
  | .none => true
  | .bool truth => !truth
  | .int n => n == 0
  | .float x => x.isZero
  | .text t => t.isEmpty
  | .bytes content => content.isEmpty
  | .buffer content => content.isEmpty
  | .list items => items.isEmpty
  | .tuple items => items.isEmpty
  | .dict entries => entries.isEmpty
  | .object traits _ => !traits.truth

end Value

end TemporalNetwork
