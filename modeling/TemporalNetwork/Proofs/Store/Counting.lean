import Mathlib.Algebra.GroupWithZero.Nat
import Mathlib.Data.List.Nodup
import TemporalNetwork.Proofs.Store.Batch

/-!
How many edges a graph has, and how often they were updated. Edges are counted by their ends, as two
nodes have at most one edge from the first to the second; their updates are counted by the lengths of
their histories. Main statement: nodes that arrive leave both numbers as they are, and links between
different pairs add one update each and one edge for each pair that had none.
-/

namespace TemporalNetwork

-- A sum over items with different keys goes up by as much as one of them does.
theorem sum_map_of_one {α κ : Type} (key : α → κ) {items : List α}
    (distinct : (items.map key).Nodup) {one : α} (member : one ∈ items) {before after : α → Nat}
    (others : ∀ item ∈ items, key item ≠ key one → after item = before item) {more : Nat}
    (grown : after one = before one + more) :
    (items.map after).sum = (items.map before).sum + more := by
  induction items with
  | nil => cases member
  | cons first rest ih =>
    rw [List.map_cons, List.nodup_cons] at distinct
    rw [List.map_cons, List.map_cons, List.sum_cons, List.sum_cons]
    rcases List.mem_cons.1 member with same | later
    · subst same
      have kept : rest.map after = rest.map before := by
        apply List.map_congr_left
        intro item inside
        apply others item (List.mem_cons_of_mem _ inside)
        intro equal
        exact distinct.1 (equal ▸ List.mem_map_of_mem inside)
      rw [kept, grown]
      omega
    · have apart : key first ≠ key one := by
        intro equal
        exact distinct.1 (equal ▸ List.mem_map_of_mem later)
      have remaining := ih distinct.2 later fun item inside =>
        others item (List.mem_cons_of_mem first inside)
      rw [others first List.mem_cons_self apart, remaining]
      omega

namespace Node

/-- How many updates the edges of a node have seen. -/
def updateTotal (node : Node) : Nat := (node.edges.map fun edge => edge.history.times.length).sum

variable {node : Node} (t : Nat) {target : NodeId} (type : Value)

theorem length_edges_touchEdge :
    (node.touchEdge t target type).edges.length =
      node.edges.length + if target ∈ node.targets then 0 else 1 := by
  by_cases known : target ∈ node.targets
  · simp [touchEdge_of_mem known, alterEdge, known]
  · simp [touchEdge_of_not_mem known, known]

theorem updateTotal_touchEdge (distinct : node.targets.Nodup) :
    (node.touchEdge t target type).updateTotal = node.updateTotal + 1 := by
  by_cases known : target ∈ node.targets
  · obtain ⟨edge, own, same⟩ := List.mem_map.1 known
    rw [touchEdge_of_mem known, updateTotal, updateTotal, alterEdge, List.map_map]
    apply sum_map_of_one Edge.target distinct own
    · intro other _ apart
      rw [same] at apart
      simp [apart]
    · simp [same, Edge.record, History.times_record]
  · simp [touchEdge_of_not_mem known, updateTotal, Edge.create, History.times_start]

end Node

namespace Store

variable {store : Store}

/-- How many updates the edges have seen: the lengths of all their histories together. -/
def updateTotal (store : Store) : Nat :=
  (store.edgeList.map fun (_, edge) => edge.history.times.length).sum

theorem edgeCount_eq_sum (store : Store) :
    store.edgeCount = (store.nodes.map fun node => node.edges.length).sum := by
  simp [edgeCount, edgeList, List.length_flatMap]

theorem updateTotal_eq_sum (store : Store) :
    store.updateTotal = (store.nodes.map Node.updateTotal).sum := by
  rw [updateTotal, edgeList, List.map_flatMap, List.flatMap_def, List.sum_flatten, List.map_map]
  apply congrArg List.sum
  apply List.map_congr_left
  intro node _
  simp [Node.updateTotal, Function.comp_def]

/-! ## Edges by their ends -/

theorem edge?_isSome {source target : NodeId} :
    (store.edge? source target).isSome ↔
      ∃ node, store.node? source = some node ∧ target ∈ node.targets := by
  rw [edge?_eq]
  cases found : store.node? source with
  | none => simp
  | some node =>
    rw [Option.bind_some, Option.isSome_iff_ne_none, Ne, Node.edgeTo?_eq_none, not_not]
    exact ⟨fun member => ⟨node, rfl, member⟩, fun ⟨_, same, member⟩ => by cases same; exact member⟩

theorem mem_pairs (valid : store.WellFormed) {source target : NodeId} :
    (source, target) ∈ store.pairs ↔ (store.edge? source target).isSome := by
  rw [edge?_isSome, pairs, List.mem_map]
  constructor
  · rintro ⟨⟨start, edge⟩, listed, same⟩
    cases same
    obtain ⟨node, found, inside⟩ := (mem_edgeList valid).1 listed
    exact ⟨node, found, List.mem_map_of_mem inside⟩
  · rintro ⟨node, found, member⟩
    obtain ⟨edge, inside, rfl⟩ := List.mem_map.1 member
    exact ⟨(source, edge), (mem_edgeList valid).2 ⟨node, found, inside⟩, rfl⟩

theorem pairs_eq (store : Store) :
    store.pairs = store.nodes.flatMap fun node => node.targets.map (node.id, ·) := by
  simp only [pairs, edgeList, List.map_flatMap, List.map_map, Node.targets]
  rfl

theorem nodup_pairs (valid : store.WellFormed) : store.pairs.Nodup := by
  rw [pairs_eq, List.nodup_flatMap]
  constructor
  · intro node member
    have found := node?_of_mem valid.distinct member
    exact (valid.targets found).map fun _ _ same => congrArg Prod.snd same
  · -- The edges of two nodes differ in their sources.
    refine (List.pairwise_map.1 valid.distinct).imp ?_
    intro node other apart pair first second
    obtain ⟨_, _, rfl⟩ := List.mem_map.1 first
    obtain ⟨_, _, same⟩ := List.mem_map.1 second
    exact apart (congrArg Prod.fst same).symm

theorem ends_mem_of_mem_pairs (valid : store.WellFormed) {pair : NodeId × NodeId}
    (member : pair ∈ store.pairs) : pair.1 ∈ store.ids ∧ pair.2 ∈ store.ids := by
  obtain ⟨node, found, inside⟩ := edge?_isSome.1 ((mem_pairs valid).1 member)
  exact ⟨mem_ids_of_node? found, valid.closed found pair.2 inside⟩

/-! ## Arrivals -/

theorem edgeList_insert_arrival (store : Store) (entry : Nat × NodeId) (new : entry.2 ∉ store.ids) :
    (store.insert (.arrival entry)).edgeList = store.edgeList := by
  have nodes : (store.insert (.arrival entry)).nodes =
      store.nodes ++ [.create entry.1 entry.2 .none] := by
    simp only [insert, Insertion.arrival, place, touchNode_of_not_mem new, mergeNode, advance,
      Node.merge_none]
    simp [alterNode]
  simp [edgeList, nodes, Node.create]

theorem edgeList_insertAll_arrivals (store : Store) (entries : List (Nat × NodeId))
    (distinct : (store.ids ++ entries.map Prod.snd).Nodup) :
    (store.insertAll (entries.map .arrival)).edgeList = store.edgeList := by
  induction entries generalizing store with
  | nil => rfl
  | cons entry rest ih =>
    have new : entry.2 ∉ store.ids := by
      intro member
      exact (List.nodup_append.1 distinct).2.2 entry.2 member entry.2 List.mem_cons_self rfl
    have remaining : ((store.insert (.arrival entry)).ids ++ rest.map Prod.snd).Nodup := by
      rw [store.ids_insert_arrival entry new]
      simpa using distinct
    rw [List.map_cons, insertAll_cons, ih _ remaining, store.edgeList_insert_arrival entry new]

/-! ## Links -/

section Link

variable (valid : store.WellFormed) (entry : Nat × NodeId × NodeId)
variable (source : entry.2.1 ∈ store.ids) (target : entry.2.2 ∈ store.ids)
include source target

theorem nodes_insert_link :
    (store.insert (.link entry)).nodes = store.nodes.map fun node =>
      if node.id = entry.2.1 then node.touchEdge entry.1 entry.2.2 .none else node := by
  have first : store.ensureNode entry.1 entry.2.1 = store := by
    simp [ensureNode, contains_eq, source]
  have second : store.ensureNode entry.1 entry.2.2 = store := by
    simp [ensureNode, contains_eq, target]
  simp only [insert, Insertion.link, place, first, second, touchEdge, mergeEdge, advance,
    Node.alterEdge_merge_none]
  simp [alterNode]

include valid

-- A link changes what is measured of its source, and of no other node.
theorem sum_insert_link {measure : Node → Nat} {node : Node} {more : Nat}
    (found : store.node? entry.2.1 = some node)
    (grown : measure (node.touchEdge entry.1 entry.2.2 .none) = measure node + more) :
    ((store.insert (.link entry)).nodes.map measure).sum =
      (store.nodes.map measure).sum + more := by
  have named := id_of_node? found
  rw [nodes_insert_link entry source target, List.map_map]
  apply sum_map_of_one Node.id valid.distinct (List.mem_of_find?_eq_some found)
  · intro other _ apart
    rw [named] at apart
    simp [apart]
  · simpa [named] using grown

theorem edgeCount_insert_link :
    (store.insert (.link entry)).edgeCount =
      store.edgeCount + if entry.2 ∈ store.pairs then 0 else 1 := by
  obtain ⟨node, found⟩ := exists_node? source
  have joined : entry.2 ∈ store.pairs ↔ entry.2.2 ∈ node.targets := by
    rw [show entry.2 = (entry.2.1, entry.2.2) from rfl, mem_pairs valid, edge?_isSome, found]
    simp
  rw [edgeCount_eq_sum, edgeCount_eq_sum]
  apply sum_insert_link valid entry source target found
  simp only [joined]
  exact Node.length_edges_touchEdge entry.1 .none

theorem updateTotal_insert_link :
    (store.insert (.link entry)).updateTotal = store.updateTotal + 1 := by
  obtain ⟨node, found⟩ := exists_node? source
  rw [updateTotal_eq_sum, updateTotal_eq_sum]
  apply sum_insert_link valid entry source target found
  exact Node.updateTotal_touchEdge entry.1 .none (valid.targets found)

end Link

section Links

variable {entries : List (Nat × NodeId × NodeId)} (valid : store.WellFormed)
variable (joins : store.Joins entries)
include valid joins

/-- Every link is one update more. -/
theorem updateTotal_insertAll_links :
    (store.insertAll (entries.map .link)).updateTotal = store.updateTotal + entries.length := by
  induction entries generalizing store with
  | nil => rfl
  | cons entry rest ih =>
    obtain ⟨source, target⟩ := joins entry List.mem_cons_self
    have stays := wellFormed_insert valid (accepts_link valid entry source target)
    rw [List.map_cons, insertAll_cons, ih stays joins.tail,
      updateTotal_insert_link valid entry source target, List.length_cons]
    omega

/-- Every link is one edge more, except for those between ends that had an edge before. -/
theorem edgeCount_insertAll_links (distinct : (entries.map Prod.snd).Nodup) :
    (store.insertAll (entries.map .link)).edgeCount +
        ((entries.map Prod.snd).filter (· ∈ store.pairs)).length =
      store.edgeCount + entries.length := by
  induction entries generalizing store with
  | nil => rfl
  | cons entry rest ih =>
    obtain ⟨source, target⟩ := joins entry List.mem_cons_self
    obtain ⟨once, tail⟩ := List.nodup_cons.1 distinct
    have stays := wellFormed_insert valid (accepts_link valid entry source target)
    -- The other links have different ends, so they find the edges that were there before.
    have found : (rest.map Prod.snd).filter (· ∈ (store.insert (.link entry)).pairs) =
        (rest.map Prod.snd).filter (· ∈ store.pairs) := by
      apply List.filter_congr
      intro pair later
      have apart : pair ≠ entry.2 := fun same => once (same ▸ later)
      have same := store.edge?_insert_link entry source target pair
      rw [if_neg apart] at same
      rw [decide_eq_decide, show pair = (pair.1, pair.2) from rfl, mem_pairs stays, mem_pairs valid,
        same]
    have remaining := ih stays joins.tail tail
    have step := edgeCount_insert_link valid entry source target
    rw [found] at remaining
    rw [List.map_cons, insertAll_cons, List.map_cons, List.filter_cons, List.length_cons]
    by_cases old : entry.2 ∈ store.pairs
    · simp only [old, decide_true, if_true, List.length_cons] at step ⊢
      omega
    · simp only [old, decide_false, if_false, Bool.false_eq_true] at step ⊢
      omega

end Links

end Store

end TemporalNetwork
