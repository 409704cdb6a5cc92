import TemporalNetwork.Generation.Allocator

/-!
Ids after a value of any kind. Nothing is followed by zero, a number by one more, and a text by the
texts that are not in use; what no one can be added to has no successor. Objects of other classes that
know how to add are left out, and have none either.
-/

namespace TemporalNetwork

inductive Successors where
  | allocated (allocator : Allocator)
  | floats (last : Double)
  deriving Repr

namespace Successors

/-- A value of this kind has no successor. -/
structure Fault where
  kind : Value.Kind
  deriving DecidableEq, Repr

def Fault.message (fault : Fault) : String :=
  match fault.kind with
  | .list => "'int' object is not iterable"
  | .tuple => "can only concatenate tuple (not \"int\") to tuple"
  | .bytes => "can't concat int to bytes"
  | .buffer => "can't concat int to bytearray"
  | kind => "unsupported operand type(s) for +=: '" ++ kind.name ++ "' and 'int'"

def after (store : Store) : Value → Except Fault Successors
  | .none => .ok (.allocated (.counting (-1)))
  | .bool truth => .ok (.allocated (.counting (if truth then 1 else 0)))
  | .int n => .ok (.allocated (.counting n))
  | .float x => .ok (.floats x)
  | .text _ => .ok (.allocated (.beside store))
  | value => .error { kind := value.kind }

def next : Successors → Value × Successors
  | .allocated allocator => (allocator.next.1.toValue, .allocated allocator.next.2)
  | .floats last => (.float last.succ, .floats last.succ)

def take : Nat → Successors → List Value × Successors
  | 0, successors => ([], successors)
  | n + 1, successors =>
    let (id, rest) := successors.next
    let (ids, rest) := take n rest
    (id :: ids, rest)

def nextId (store : Store) (last : Value) : Except Fault Value :=
  (after store last).map fun successors => successors.next.1

theorem after_toValue (store : Store) (id : NodeId) :
    after store id.toValue = .ok (.allocated (.after store (some id))) := by
  cases id <;> rfl

end Successors

end TemporalNetwork
