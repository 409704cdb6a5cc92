import Mathlib.Data.List.Basic
import TemporalNetwork.GraphFile
import TemporalNetwork.Proofs.Store.WellFormed

/-!
The document of a graph by its records. A graph lists its ids and its pairs and is asked about each
of them; the answers come from other parts of it than the lists. Main statement: every question about
what is listed has an answer, and the answers in the order of the lists are the records as they stand.
-/

namespace TemporalNetwork

open GraphFile

def Node.entries (node : Node) : List NodeEntry :=
  node.history.times.map fun t =>
    { id := node.id.toValue, time := .int (t : Nat), type := node.type }

def Edge.entries (source : NodeId) (edge : Edge) : List EdgeEntry :=
  edge.history.times.map fun t =>
    { source := source.toValue, target := edge.target.toValue, time := .int (t : Nat) }

namespace Store

/-- One entry for each update, node by node and edge by edge. -/
def records (store : Store) : Document :=
  { nodes := store.nodes.flatMap Node.entries
    edges := store.edgeList.flatMap fun (source, edge) => edge.entries source }

variable {store : Store}

theorem nodeEntries_of_node? {id : NodeId} {node : Node} (found : store.node? id = some node) :
    store.nodeEntries id = .ok node.entries := by
  obtain rfl := id_of_node? found
  simp only [nodeEntries, nodeType, nodeHistory, unhashable?_toValue, nodeNamed?_toValue, found]
  rfl

theorem edgeEntries_of_edge? {source target : NodeId} {edge : Edge}
    (found : store.edge? source target = some edge) :
    store.edgeEntries (source, target) = .ok (edge.entries source) := by
  obtain ⟨node, _, own⟩ := Option.bind_eq_some_iff.1 found
  obtain rfl : edge.target = target := by simpa using List.find?_some own
  simp only [edgeEntries, edgeHistory, edgeNamed?_toValue, found]
  rfl

-- With one edge to each target, an edge is the one that is found between its ends.
theorem edge?_of_mem (valid : store.WellFormed) {source : NodeId} {edge : Edge}
    (listed : (source, edge) ∈ store.edgeList) : store.edge? source edge.target = some edge := by
  obtain ⟨node, found, own⟩ := (mem_edgeList valid).1 listed
  rw [edge?_eq, found, Option.bind_some]
  exact find?_key (valid.targets found) own

/-- Every id that is listed has its answers, and so has every pair. -/
theorem exists_entries (valid : store.WellFormed) :
    (∀ id ∈ store.ids, ∃ entries, store.nodeEntries id = .ok entries) ∧
      ∀ pair ∈ store.pairs, ∃ entries, store.edgeEntries pair = .ok entries := by
  constructor
  · intro id member
    obtain ⟨node, found⟩ := exists_node? member
    exact ⟨_, nodeEntries_of_node? found⟩
  · intro pair member
    obtain ⟨⟨source, edge⟩, listed, rfl⟩ := List.mem_map.1 member
    exact ⟨_, edgeEntries_of_edge? (edge?_of_mem valid listed)⟩

theorem document_eq_records (valid : store.WellFormed) : store.document = store.records := by
  have nodes : ∀ node ∈ store.nodes,
      (store.nodeEntries node.id).toOption.getD [] = node.entries := by
    intro node member
    rw [nodeEntries_of_node? (node?_of_mem valid.distinct member)]
    rfl
  have edges : ∀ listed ∈ store.edgeList,
      (store.edgeEntries (listed.1, listed.2.target)).toOption.getD [] =
        listed.2.entries listed.1 := by
    intro listed member
    rw [edgeEntries_of_edge? (edge?_of_mem valid member)]
    rfl
  rw [document, records, ids, pairs, List.flatMap_map, List.flatMap_map,
    List.flatMap_congr nodes, List.flatMap_congr edges]

end Store

end TemporalNetwork
