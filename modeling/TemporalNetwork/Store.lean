import TemporalNetwork.NodeId
import TemporalNetwork.Store.Properties

/-!
The store of a temporal graph: nodes in the order of their first mention, each with the times at
which it was updated and with its outgoing edges in the order of their first insertion; beside
them the kind of ids, which the first node settles, and the earliest and the latest time of all
completed updates.
-/

namespace TemporalNetwork

/-- The times of the updates of a node or an edge, in the order in which they were made. There is
at least one. -/
structure History where
  first : Nat
  later : List Nat
  deriving DecidableEq, Repr

namespace History

def times (history : History) : List Nat := history.first :: history.later

def start (t : Nat) : History := { first := t, later := [] }

def record (history : History) (t : Nat) : History :=
  { history with later := history.later ++ [t] }

theorem times_start (t : Nat) : (start t).times = [t] := rfl

theorem times_record (history : History) (t : Nat) :
    (history.record t).times = history.times ++ [t] := rfl

end History

structure Edge where
  target : NodeId
  history : History
  type : Value
  properties : Properties
  deriving Repr

@[ext]
structure Node where
  id : NodeId
  history : History
  type : Value
  properties : Properties
  edges : List Edge
  deriving Repr

namespace Edge

def create (t : Nat) (target : NodeId) (type : Value) : Edge :=
  { target, history := .start t, type, properties := [] }

def record (edge : Edge) (t : Nat) : Edge := { edge with history := edge.history.record t }

def merge (edge : Edge) (argument : Value) : Edge :=
  { edge with properties := (edge.properties.merge argument).1 }

end Edge

namespace Node

def create (t : Nat) (id : NodeId) (type : Value) : Node :=
  { id, history := .start t, type, properties := [], edges := [] }

def record (node : Node) (t : Nat) (type : Value) : Node :=
  { node with
    history := node.history.record t
    type := match type with
      | .none => node.type
      | type => type }

def merge (node : Node) (argument : Value) : Node :=
  { node with properties := (node.properties.merge argument).1 }

def alterEdge (node : Node) (target : NodeId) (change : Edge → Edge) : Node :=
  { node with
    edges := node.edges.map fun edge => if edge.target = target then change edge else edge }

/-- Records an update of an edge, which is created if it is missing. Only a new edge takes the type. -/
def touchEdge (node : Node) (t : Nat) (target : NodeId) (type : Value) : Node :=
  if node.edges.any (·.target = target) then node.alterEdge target (·.record t)
  else { node with edges := node.edges ++ [.create t target type] }

end Node

@[ext]
structure Store where
  nodes : List Node
  kind? : Option NodeId.Kind
  earliest : Option Nat
  latest : Option Nat
  deriving Repr

namespace Store

def empty : Store := { nodes := [], kind? := none, earliest := none, latest := none }

/-! ## Looking up -/

def node? (store : Store) (id : NodeId) : Option Node := store.nodes.find? (·.id = id)

def contains (store : Store) (id : NodeId) : Bool := store.nodes.any (·.id = id)

def edge? (store : Store) (source target : NodeId) : Option Edge :=
  (store.node? source).bind fun node => node.edges.find? (·.target = target)

def ids (store : Store) : List NodeId := store.nodes.map (·.id)

def edgeList (store : Store) : List (NodeId × Edge) :=
  store.nodes.flatMap fun node => node.edges.map (node.id, ·)

def pairs (store : Store) : List (NodeId × NodeId) :=
  store.edgeList.map fun (source, edge) => (source, edge.target)

def nodeCount (store : Store) : Nat := store.nodes.length

def edgeCount (store : Store) : Nat := store.edgeList.length

/-! ## Changing -/

def alterNode (store : Store) (id : NodeId) (change : Node → Node) : Store :=
  { store with nodes := store.nodes.map fun node => if node.id = id then change node else node }

/-- Records an update of a node, which is created if it is missing. A new node settles the kind of
ids, unless that is done. -/
def touchNode (store : Store) (t : Nat) (id : NodeId) (type : Value) : Store :=
  if store.contains id then store.alterNode id (·.record t type)
  else
    { store with
      nodes := store.nodes ++ [.create t id type]
      kind? := store.kind?.or (some id.kind) }

def ensureNode (store : Store) (t : Nat) (id : NodeId) : Store :=
  if store.contains id then store else store.touchNode t id .none

def touchEdge (store : Store) (t : Nat) (source target : NodeId) (type : Value) : Store :=
  store.alterNode source (·.touchEdge t target type)

def advance (store : Store) (t : Nat) : Store :=
  { store with
    earliest := some (match store.earliest with
      | none => t
      | some known => min known t)
    latest := some (match store.latest with
      | none => t
      | some known => max known t) }

def mergeNode (store : Store) (id : NodeId) (argument : Value) :
    Store × Option Properties.Fault :=
  (store.alterNode id (·.merge argument),
    (store.node? id).bind fun node => (node.properties.merge argument).2)

def mergeEdge (store : Store) (source target : NodeId) (argument : Value) :
    Store × Option Properties.Fault :=
  (store.alterNode source (·.alterEdge target (·.merge argument)),
    (store.edge? source target).bind fun edge => (edge.properties.merge argument).2)

end Store

end TemporalNetwork
