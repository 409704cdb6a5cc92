import TemporalNetwork.Store.Query
import TemporalNetwork.Store.Update

/-!
The document of a graph: one entry for each recorded update, all nodes before all edges. It is made
of what a store answers about the ids and the pairs that it lists, and it is replayed entry by entry.
-/

namespace TemporalNetwork

namespace GraphFile

structure NodeEntry where
  id : Value
  time : Value
  type : Value
  deriving Repr

structure EdgeEntry where
  source : Value
  target : Value
  time : Value
  deriving Repr

structure Document where
  nodes : List NodeEntry
  edges : List EdgeEntry
  deriving Repr

def NodeEntry.update (entry : NodeEntry) : NodeUpdate :=
  { time := entry.time, id := entry.id, properties := .none, type := entry.type }

def EdgeEntry.update (entry : EdgeEntry) : EdgeUpdate :=
  { time := entry.time, source := entry.source, target := entry.target, properties := .none
    type := .none }

def replayNodes (store : Store) : List NodeEntry → Except UpdateFault Store
  | [] => .ok store
  | entry :: rest =>
    match store.addNode entry.update with
    | (store, none) => replayNodes store rest
    | (_, some fault) => .error fault

def replayEdges (store : Store) : List EdgeEntry → Except UpdateFault Store
  | [] => .ok store
  | entry :: rest =>
    match store.addEdge entry.update with
    | (store, none) => replayEdges store rest
    | (_, some fault) => .error fault

def Document.replay (document : Document) : Except UpdateFault Store :=
  match replayNodes .empty document.nodes with
  | .error fault => .error fault
  | .ok store => replayEdges store document.edges

end GraphFile

open GraphFile

namespace Store

def nodeEntries (store : Store) (id : NodeId) : Except KeyFault (List NodeEntry) :=
  match store.nodeType id.toValue with
  | .error fault => .error fault
  | .ok type =>
    (store.nodeHistory id.toValue).map fun times => times.map fun t =>
      { id := id.toValue, time := .int (t : Nat), type }

def edgeEntries (store : Store) (pair : NodeId × NodeId) : Except KeyFault (List EdgeEntry) :=
  (store.edgeHistory pair.1.toValue pair.2.toValue).map fun times => times.map fun t =>
    { source := pair.1.toValue, target := pair.2.toValue, time := .int (t : Nat) }

/-- The document of a graph: its ids and its pairs are listed, and it is asked about each of them.
There is an answer to each of these questions. -/
def document (store : Store) : Document :=
  { nodes := store.ids.flatMap fun id => (store.nodeEntries id).toOption.getD []
    edges := store.pairs.flatMap fun pair => (store.edgeEntries pair).toOption.getD [] }

end Store

end TemporalNetwork
