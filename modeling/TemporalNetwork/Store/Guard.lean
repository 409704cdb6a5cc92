import TemporalNetwork.Store.Update

/-!
A store behind a guard, which refuses nodes by their ids and breaks one insertion of an edge. The
nodes that an edge brings with it pass the guard unseen.
-/

namespace TemporalNetwork

/-- The ids to refuse, the number of the edge insertion to break, counted from one, and how many
edge insertions there have been. -/
structure Guard where
  refused : List Value
  failingEdge : Option Int
  edgeCalls : Nat
  deriving Repr

structure GuardedStore where
  store : Store
  guard : Option Guard
  deriving Repr

namespace GuardedStore

def ofStore (store : Store) : GuardedStore := { store, guard := none }

def nodeRefusal? (guarded : GuardedStore) (id : Value) : Option Refusal :=
  match guarded.guard with
  | none => none
  | some guard => if guard.refused.any (·.same id) then some (.taken id) else none

def addNode (guarded : GuardedStore) (update : NodeUpdate) : GuardedStore × Option UpdateFault :=
  match guarded.nodeRefusal? update.id with
  | some refusal => (guarded, some refusal.fault)
  | none =>
    let (store, fault) := guarded.store.addNode update
    ({ guarded with store }, fault)

def countEdge (guarded : GuardedStore) : GuardedStore × Bool :=
  match guarded.guard with
  | none => (guarded, false)
  | some guard =>
    let calls := guard.edgeCalls + 1
    ({ guarded with guard := some { guard with edgeCalls := calls } },
      guard.failingEdge == some (calls : Int))

def addEdge (guarded : GuardedStore) (update : EdgeUpdate) : GuardedStore × Option UpdateFault :=
  match guarded.countEdge with
  | (guarded, true) => (guarded, some (.refused .brokenInvariant))
  | (guarded, false) =>
    let (store, fault) := guarded.store.addEdge update
    ({ guarded with store }, fault)

end GuardedStore

end TemporalNetwork
