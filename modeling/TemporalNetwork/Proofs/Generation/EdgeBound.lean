import Mathlib.Data.List.Perm.Subperm
import TemporalNetwork.Proofs.Generation.AppendOnly
import TemporalNetwork.Proofs.Store.Counting

/-!
How many edges there can be. A graph has at most one edge from a node to another one, and at most one
from a node to itself. Main statement: a generation draws for pairs of two nodes only, so the edges
between two nodes never outnumber the ordered pairs of nodes, and the edges of nodes with themselves
are those of before.
-/

namespace TemporalNetwork

namespace Store

variable {store : Store}

/-! ## Edges by their ends -/

def crossings (store : Store) : List (NodeId × NodeId) :=
  store.pairs.filter fun pair => pair.1 ≠ pair.2

def loops (store : Store) : List NodeId := store.ids.filter fun id => (store.edge? id id).isSome

theorem mem_loops (valid : store.WellFormed) {id : NodeId} :
    id ∈ store.loops ↔ (id, id) ∈ store.pairs := by
  rw [loops, List.mem_filter, mem_pairs valid, and_iff_right_iff_imp]
  exact fun linked => (ends_mem_of_mem_pairs valid ((mem_pairs valid).2 linked)).1

/-! ## Counting -/

-- The edges that are no crossings are those of the loops.
theorem perm_loops (valid : store.WellFormed) :
    (store.pairs.filter fun pair => !decide (pair.1 ≠ pair.2)).Perm
      (store.loops.map fun id => (id, id)) := by
  have distinct : (store.loops.map fun id => (id, id)).Nodup :=
    (valid.distinct.filter _).map fun _ _ same => congrArg Prod.fst same
  rw [List.perm_ext_iff_of_nodup ((nodup_pairs valid).filter _) distinct]
  rintro ⟨source, target⟩
  simp only [List.mem_filter, ne_eq, decide_not, Bool.not_not, decide_eq_true_eq, List.mem_map,
    Prod.mk.injEq]
  constructor
  · rintro ⟨listed, rfl⟩
    exact ⟨source, (mem_loops valid).2 listed, rfl, rfl⟩
  · rintro ⟨id, looped, rfl, rfl⟩
    exact ⟨(mem_loops valid).1 looped, rfl⟩

/-- Every edge is between two nodes or of a node with itself. -/
theorem edgeCount_eq (valid : store.WellFormed) :
    store.edgeCount = store.crossings.length + store.loops.length := by
  have all := List.length_eq_length_filter_add (l := store.pairs) fun pair => pair.1 ≠ pair.2
  rw [(perm_loops valid).length_eq, List.length_map] at all
  rw [edgeCount, ← List.length_map, ← pairs, all]
  rfl

theorem length_crossings_le (valid : store.WellFormed) :
    store.crossings.length ≤ store.nodeCount * (store.nodeCount - 1) := by
  have among : store.crossings ⊆
      (Generation.allPairs store.ids).filter fun pair => pair.1 ≠ pair.2 := by
    intro pair member
    obtain ⟨listed, apart⟩ := List.mem_filter.1 member
    exact List.mem_filter.2 ⟨Generation.mem_allPairs.2 (ends_mem_of_mem_pairs valid listed), apart⟩
  have distinct : store.crossings.Nodup := (nodup_pairs valid).filter _
  have bound := (List.Nodup.subperm distinct among).length_le
  rw [← Generation.EdgePhase.drawCount, Generation.drawCount_allPairs valid.distinct] at bound
  simpa [ids, nodeCount] using bound

end Store

/-! ## Edges after a generation -/

namespace Generation

section Growth

variable {before after : Store} {arrived : List (Nat × NodeId)}
variable {made : List (Nat × NodeId × NodeId)} (growth : Growth before arrived made after)
include growth

theorem Growth.edge?_self (id : NodeId) : after.edge? id id = before.edge? id id := by
  rcases growth.edge?_eq (id, id) with ⟨entry, member, same, _⟩ | kept
  · have apart := growth.apart entry member
    rw [same] at apart
    exact absurd rfl apart
  · exact kept

theorem Growth.loops : after.loops = before.loops := by
  -- A node that came was not there, so it had no edge.
  have fresh : (arrived.map Prod.snd).filter (fun id => (before.edge? id id).isSome) = [] := by
    rw [List.filter_eq_nil_iff]
    intro id given linked
    obtain ⟨_, found, _⟩ := Store.edge?_isSome.1 linked
    exact (List.nodup_append.1 growth.new).2.2 id (Store.mem_ids_of_node? found) id given rfl
  simp only [Store.loops, growth.edge?_self]
  rw [growth.ids, List.filter_append, fresh, List.append_nil]

end Growth

/-- After any generation, however it ended, there are no more edges than ordered pairs of nodes and
loops of before: the edges between two nodes are no more than the pairs, and each edge of a node with
itself is one of before, as it was. -/
theorem run_edgeCount {carries : Value → Prop} {guarded : GuardedStore}
    (reached : Reachable carries guarded.store) (resources : Resources) (logging : Logging)
    (request : Request) :
    let before := guarded.store
    let after := (run resources logging guarded request).store.store
    after.edgeCount ≤ after.nodeCount * (after.nodeCount - 1) + before.loops.length ∧
      after.edgeCount = after.crossings.length + before.loops.length ∧
      after.crossings.length ≤ after.nodeCount * (after.nodeCount - 1) ∧
      ∀ id, after.edge? id id = before.edge? id id := by
  intro before after
  have valid : after.WellFormed := (reached.generation resources logging request).wellFormed
  obtain ⟨arrived, made, growth⟩ := exists_growth reached.wellFormed resources logging request
  have parts : after.edgeCount = after.crossings.length + before.loops.length := by
    rw [Store.edgeCount_eq valid, growth.loops]
  have bound := Store.length_crossings_le valid
  exact ⟨by omega, parts, bound, growth.edge?_self⟩

/-- Beside a loop, one new node and every link: three edges among two nodes. -/
theorem run_edgeCount_beside_loop :
    let loop : Call := .edge
      { time := .int 1, source := .int 0, target := .int 0, properties := .none, type := .none }
    let store := (Store.empty.perform loop).1
    let zero : Value := .bytes (List.replicate 32 0)
    let request : Request :=
      { count := .int 1, probability := .float (.infinite false), seed := zero }
    let after := (run .zero .lenient (.ofStore store) request).store.store
    Reachable (fun _ => True) store ∧ after.edgeCount = 3 ∧ after.nodeCount = 2 ∧
      after.edgeCount ≤ after.nodeCount * (after.nodeCount - 1) + store.loops.length ∧
      after.edgeCount = after.crossings.length + store.loops.length ∧
      after.crossings.length ≤ after.nodeCount * (after.nodeCount - 1) ∧
      ∀ id, after.edge? id id = store.edge? id id := by
  intro loop store zero request after
  have reached : Reachable (fun _ => True) store := .call .empty loop trivial
  exact ⟨reached, by decide +kernel, by decide +kernel,
    @run_edgeCount _ (.ofStore store) reached .zero .lenient request⟩

/-- A graph of one node and its edge to itself has more edges than ordered pairs of nodes, and a
generation without new nodes leaves it so. -/
theorem run_edgeCount_loop_alone :
    let loop : Call := .edge
      { time := .int 1, source := .int 0, target := .int 0, properties := .none, type := .none }
    let store := (Store.empty.perform loop).1
    let zero : Value := .bytes (List.replicate 32 0)
    let request : Request :=
      { count := .int 0, probability := .float evenProbability, seed := zero }
    let outcome := run .zero .lenient (.ofStore store) request
    let after := outcome.store.store
    Reachable (fun _ => True) store ∧ (∃ summary, outcome.result = .ok summary) ∧
      ¬after.edgeCount ≤ after.nodeCount * (after.nodeCount - 1) := by
  intro loop store zero request outcome after
  exact ⟨.call .empty loop trivial, ⟨_, rfl⟩, by decide⟩

end Generation

end TemporalNetwork
