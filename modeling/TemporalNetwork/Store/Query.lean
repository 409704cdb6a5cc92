import TemporalNetwork.Store
import TemporalNetwork.Value.Text

/-!
Questions to a store by keys of any kind.
-/

namespace TemporalNetwork

inductive KeyFault where
  | missing (key : Value)
  | unhashable (kind : Value.Kind)
  deriving Repr

def KeyFault.message : KeyFault → String
  | .missing key => key.display
  | .unhashable kind => "unhashable type: '" ++ kind.name ++ "'"

namespace Store

def nodeNamed? (store : Store) (key : Value) : Option Node :=
  (NodeId.named? key).bind store.node?

def hasNode (store : Store) (key : Value) : Bool := (store.nodeNamed? key).isSome

def nodeHistory (store : Store) (key : Value) : Except KeyFault (List Nat) :=
  match store.nodeNamed? key with
  | some node => .ok node.history.times
  | none => .error (.missing key)

def nodeType (store : Store) (key : Value) : Except KeyFault Value :=
  match key.unhashable? with
  | some kind => .error (.unhashable kind)
  | none =>
    match store.nodeNamed? key with
    | some node => .ok node.type
    | none => .error (.missing key)

/-- The edge between two keys. The target is looked at only if the source is a node. -/
def edgeNamed? (store : Store) (source target : Value) : Except KeyFault (Option Edge) :=
  match source.unhashable? with
  | some kind => .error (.unhashable kind)
  | none =>
    match store.nodeNamed? source with
    | none => .ok none
    | some node =>
      match target.unhashable? with
      | some kind => .error (.unhashable kind)
      | none => .ok ((NodeId.named? target).bind fun id => node.edges.find? (·.target = id))

def hasEdge (store : Store) (source target : Value) : Except KeyFault Bool :=
  (store.edgeNamed? source target).map Option.isSome

def edgeHistory (store : Store) (source target : Value) : Except KeyFault (List Nat) :=
  match store.edgeNamed? source target with
  | .error fault => .error fault
  | .ok (some edge) => .ok edge.history.times
  | .ok none => .error (.missing (.tuple [source, target]))

end Store

end TemporalNetwork
