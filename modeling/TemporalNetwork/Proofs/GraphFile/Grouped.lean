import TemporalNetwork.Proofs.Store.Batch
import TemporalNetwork.Proofs.Store.CallLog
import TemporalNetwork.Proofs.Store.WellFormed

/-!
A graph's updates in the order of its file: all nodes before all edges, and the updates of a node or
of an edge in one go. This order is seldom the one in which the graph was built, and what brought a
node with an edge is now an update of its own. Main statement: the updates in this order make the
same graph, but for the properties and the types of edges, which the file does not hold.
-/

namespace TemporalNetwork

/-! ## What a file does not hold -/

def Edge.saved (edge : Edge) : Edge := { edge with type := .none, properties := [] }

def Node.saved (node : Node) : Node :=
  { node with properties := [], edges := node.edges.map Edge.saved }

@[simp] theorem Edge.history_saved (edge : Edge) : edge.saved.history = edge.history := rfl
@[simp] theorem Node.history_saved (node : Node) : node.saved.history = node.history := rfl

/-- The graph without properties and without types of edges. -/
def Store.saved (store : Store) : Store := { store with nodes := store.nodes.map Node.saved }

def Node.updates (node : Node) : Ledger :=
  node.history.times.map fun t => .node t node.id node.type .none

def Edge.updates (source : NodeId) (edge : Edge) : Ledger :=
  edge.history.times.map fun t => .edge t source edge.target .none .none

def Store.groupedNodes (store : Store) : Ledger := store.nodes.flatMap Node.updates

def Store.groupedEdges (store : Store) : Ledger :=
  store.edgeList.flatMap fun (source, edge) => edge.updates source

/-- The updates in the order of the file. -/
def Store.grouped (store : Store) : Ledger := store.groupedNodes ++ store.groupedEdges

/-! ## Groups -/

-- Of all groups only the one with the key is left.
theorem flatMap_only {α β κ : Type} [DecidableEq κ] (key : α → κ) {groups : List α}
    (distinct : (groups.map key).Nodup) {one : α} (member : one ∈ groups) (f : α → List β) :
    (groups.flatMap fun group => if key group = key one then f group else []) = f one := by
  induction groups with
  | nil => cases member
  | cons first rest ih =>
    rw [List.map_cons, List.nodup_cons] at distinct
    rw [List.flatMap_cons]
    rcases List.mem_cons.1 member with same | later
    · subst same
      have others : ∀ group ∈ rest, (if key group = key one then f group else []) = [] := by
        intro group inside
        have differ : key group ≠ key one := by
          intro equal
          exact distinct.1 (equal ▸ List.mem_map_of_mem inside)
        rw [if_neg differ]
      rw [if_pos rfl, List.flatMap_eq_nil_iff.2 others, List.append_nil]
    · have differ : key first ≠ key one := by
        intro equal
        exact distinct.1 (equal ▸ List.mem_map_of_mem later)
      rw [if_neg differ, List.nil_append, ih distinct.2 later]

/-! ## Lines of one kind -/

namespace Ledger

theorem lastType_of_forall {lines : List Line} {type : Value} (filled : lines ≠ [])
    (alike : ∀ line ∈ lines, line.type = type) : lastType lines = type := by
  induction lines using List.reverseRecOn with
  | nil => exact absurd rfl filled
  | append_singleton earlier line ih =>
    have last := alike line (by simp)
    rw [lastType_concat, last]
    cases type with
    | none =>
      by_cases alone : earlier = []
      · rw [alone]
        rfl
      · exact ih alone fun other member => alike other (List.mem_append_left _ member)
    | _ => rfl

theorem mergeAll_of_forall {lines : List Line} (plain : ∀ line ∈ lines, line.properties = .none) :
    mergeAll lines = [] := by
  induction lines using List.reverseRecOn with
  | nil => rfl
  | append_singleton earlier line ih =>
    rw [mergeAll_concat, plain line (by simp),
      ih fun other member => plain other (List.mem_append_left _ member)]
    rfl

end Ledger

namespace Store

variable {store : Store} (valid : store.WellFormed)

/-! ## Ids and nodes -/

theorem mentions_updates (node : Node) :
    node.updates.flatMap Insertion.mentions = node.history.times.map fun _ => node.id := by
  rw [Node.updates, List.flatMap_map, List.map_eq_flatMap]
  rfl

include valid

theorem mem_groupedEdges {line : Insertion} (member : line ∈ store.groupedEdges) :
    ∃ source node edge t, store.node? source = some node ∧ edge ∈ node.edges ∧
      t ∈ edge.history.times ∧ line = .edge t source edge.target .none .none := by
  obtain ⟨⟨source, edge⟩, inside, updated⟩ := List.mem_flatMap.1 member
  obtain ⟨t, recorded, rfl⟩ := List.mem_map.1 updated
  obtain ⟨node, found, own⟩ := (mem_edgeList valid).1 inside
  exact ⟨source, node, edge, t, found, own, recorded, rfl⟩

theorem ids_grouped : Ledger.ids store.grouped = store.ids := by
  have nodes : joinIds [] (store.groupedNodes.flatMap Insertion.mentions) = store.ids := by
    rw [groupedNodes, List.flatMap_assoc]
    simp only [mentions_updates]
    exact joinIds_groups Node.id (fun node _ => by simp [History.times_ne_nil])
      (fun node _ id member => by
        obtain ⟨_, _, same⟩ := List.mem_map.1 member
        exact same.symm)
      (show ([] ++ store.nodes.map Node.id).Nodup from valid.distinct)
  -- Both ends of an edge are nodes, so the edges mention nobody new.
  have edges : ∀ id ∈ store.groupedEdges.flatMap Insertion.mentions, id ∈ store.ids := by
    intro id member
    obtain ⟨line, inside, mentioned⟩ := List.mem_flatMap.1 member
    obtain ⟨source, node, edge, t, found, own, _, rfl⟩ := mem_groupedEdges valid inside
    simp only [Insertion.mentions, List.mem_cons, List.not_mem_nil, or_false] at mentioned
    rcases mentioned with first | second
    · exact first ▸ mem_ids_of_node? found
    · exact second ▸ valid.closed found edge.target (List.mem_map_of_mem own)
  have joined := Ledger.joinIds_eraseDups [] (store.grouped.flatMap Insertion.mentions)
  rw [List.nil_append, grouped, List.flatMap_append] at joined
  rw [Ledger.ids, grouped, List.flatMap_append, ← joined, joinIds_append]
  simp only [List.eraseDups_nil]
  rw [nodes, joinIds_of_subset edges]

variable {id : NodeId} {node : Node} (found : store.node? id = some node)
include found

theorem nodeLines_grouped :
    Ledger.nodeLines store.grouped id = node.history.times.map fun t =>
      { time := t, type := node.type, properties := .none } := by
  have edges : store.groupedEdges.filterMap (Ledger.nodeLine? id) = [] := by
    rw [List.filterMap_eq_nil_iff]
    intro line member
    obtain ⟨source, node, edge, t, _, _, _, rfl⟩ := mem_groupedEdges valid member
    rfl
  have group : ∀ other : Node, other.updates.filterMap (Ledger.nodeLine? id) =
      if other.id = node.id then
        other.history.times.map fun t => { time := t, type := other.type, properties := .none }
      else [] := by
    intro other
    rw [id_of_node? found, Node.updates, List.filterMap_map]
    by_cases same : other.id = id
    · simp [Function.comp_def, Ledger.nodeLine?, same]
    · simp [Function.comp_def, Ledger.nodeLine?, same]
  rw [Ledger.nodeLines, grouped, List.filterMap_append, edges, List.append_nil, groupedNodes,
    List.filterMap_flatMap]
  simp only [group]
  exact flatMap_only Node.id valid.distinct (List.mem_of_find?_eq_some found) _

omit valid in
-- Every node comes before all edges.
theorem bornWith?_grouped : Ledger.bornWith? store.grouped id = none := by
  have inside : node ∈ store.nodes := List.mem_of_find?_eq_some found
  have named : ∃ line ∈ store.groupedNodes, id ∈ line.mentions := by
    refine ⟨.node node.history.first node.id node.type .none, ?_, ?_⟩
    · exact List.mem_flatMap.2 ⟨node, inside, List.mem_map.2 ⟨_, List.mem_cons_self, rfl⟩⟩
    · simp [Insertion.mentions, id_of_node? found]
  rw [Ledger.bornWith?, grouped, List.find?_append]
  -- The first line to mention the node is a line of its own, not an edge.
  cases first : store.groupedNodes.find? (id ∈ ·.mentions) with
  | none =>
    obtain ⟨line, member, mentioned⟩ := named
    exact absurd (decide_eq_true mentioned) (List.find?_eq_none.1 first line member)
  | some line =>
    obtain ⟨other, _, member⟩ := List.mem_flatMap.1 (List.mem_of_find?_eq_some first)
    obtain ⟨t, _, rfl⟩ := List.mem_map.1 member
    rfl

theorem nodeTimes_grouped : Ledger.nodeTimes store.grouped id = node.history.times := by
  rw [Ledger.nodeTimes, bornWith?_grouped found, nodeLines_grouped valid found, List.map_map]
  simp [Function.comp_def]

theorem nodeType_grouped : Ledger.nodeType store.grouped id = node.type := by
  rw [Ledger.nodeType, nodeLines_grouped valid found]
  apply Ledger.lastType_of_forall
  · simp [History.times_ne_nil]
  · simp

/-! ## Edges -/

omit valid found in
theorem groupedEdges_eq (store : Store) :
    store.groupedEdges =
      store.nodes.flatMap fun node => node.edges.flatMap (Edge.updates node.id) := by
  simp [groupedEdges, edgeList, List.flatMap_assoc, List.flatMap_map]

-- What is read off edges of one source is read off the edges of its node.
theorem filterMap_grouped {β : Type} {read : Insertion → Option β}
    (nodes : ∀ t named type properties, read (.node t named type properties) = none)
    (edges : ∀ t source target type properties, source ≠ id →
      read (.edge t source target type properties) = none) :
    store.grouped.filterMap read =
      node.edges.flatMap fun edge => (edge.updates id).filterMap read := by
  have nodesLeftOut : store.groupedNodes.filterMap read = [] := by
    rw [List.filterMap_eq_nil_iff]
    intro line member
    obtain ⟨other, _, recorded⟩ := List.mem_flatMap.1 member
    obtain ⟨t, _, rfl⟩ := List.mem_map.1 recorded
    exact nodes _ _ _ _
  have group : ∀ other : Node,
      (other.edges.flatMap (Edge.updates other.id)).filterMap read =
        if other.id = node.id then
          other.edges.flatMap fun edge => (edge.updates id).filterMap read
        else [] := by
    intro other
    rw [id_of_node? found, List.filterMap_flatMap]
    split
    · next same => rw [same]
    · next differ =>
      rw [List.flatMap_eq_nil_iff]
      intro edge _
      rw [List.filterMap_eq_nil_iff]
      intro line member
      obtain ⟨t, _, rfl⟩ := List.mem_map.1 member
      exact edges _ _ _ _ _ differ
  rw [grouped, List.filterMap_append, nodesLeftOut, List.nil_append, groupedEdges_eq,
    List.filterMap_flatMap]
  simp only [group]
  exact flatMap_only Node.id valid.distinct (List.mem_of_find?_eq_some found) _

theorem targets_grouped : Ledger.targets store.grouped id = node.targets := by
  have read : store.grouped.filterMap (Ledger.targetFrom? id) =
      node.edges.flatMap fun edge => edge.history.times.map fun _ => edge.target := by
    rw [filterMap_grouped valid found (fun _ _ _ _ => rfl)
      (fun _ _ _ _ _ differ => by simp [Ledger.targetFrom?, differ])]
    simp [Edge.updates, Ledger.targetFrom?, Function.comp_def]
  rw [Ledger.targets, read]
  exact Ledger.eraseDups_groups Edge.target (fun edge _ => by simp [History.times_ne_nil])
    (fun edge _ target member => by
      obtain ⟨_, _, same⟩ := List.mem_map.1 member
      exact same.symm)
    (valid.targets found)

theorem edgeLines_grouped {edge : Edge} (own : edge ∈ node.edges) :
    Ledger.edgeLines store.grouped id edge.target = edge.history.times.map fun t =>
      { time := t, type := .none, properties := .none } := by
  have group : ∀ other : Edge,
      (other.updates id).filterMap (Ledger.edgeLine? id edge.target) =
        if other.target = edge.target then
          other.history.times.map fun t => { time := t, type := .none, properties := .none }
        else [] := by
    intro other
    rw [Edge.updates, List.filterMap_map]
    by_cases same : other.target = edge.target
    · simp [Function.comp_def, Ledger.edgeLine?, same]
    · simp [Function.comp_def, Ledger.edgeLine?, same]
  rw [Ledger.edgeLines, filterMap_grouped valid found (fun _ _ _ _ => rfl)
    (fun _ _ _ _ _ differ => by simp [Ledger.edgeLine?, differ])]
  simp only [group]
  exact flatMap_only Edge.target (valid.targets found) own _

theorem edge_grouped {edge : Edge} (own : edge ∈ node.edges) :
    Ledger.edge store.grouped id edge.target = edge.saved := by
  have lines := edgeLines_grouped valid found own
  have times : Ledger.edgeTimes store.grouped id edge.target = edge.history.times := by
    rw [Ledger.edgeTimes, lines, List.map_map]
    simp [Function.comp_def]
  have type : Ledger.edgeType store.grouped id edge.target = .none := by
    rw [Ledger.edgeType, lines]
    rfl
  have properties : Ledger.mergeAll (Ledger.edgeLines store.grouped id edge.target) = [] := by
    rw [lines]
    exact Ledger.mergeAll_of_forall (by simp)
  simp only [Ledger.edge, times, type, properties, History.ofTimes_times]
  rfl

theorem node_grouped : Ledger.node store.grouped id = node.saved := by
  have properties : Ledger.mergeAll (Ledger.nodeLines store.grouped id) = [] := by
    rw [nodeLines_grouped valid found]
    exact Ledger.mergeAll_of_forall (by simp)
  have edges : (Ledger.targets store.grouped id).map (Ledger.edge store.grouped id) =
      node.edges.map Edge.saved := by
    rw [targets_grouped valid found, Node.targets, List.map_map]
    exact List.map_congr_left fun edge own => edge_grouped valid found own
  rw [Ledger.node, nodeTimes_grouped valid found, nodeType_grouped valid found, properties, edges,
    History.ofTimes_times, ← id_of_node? found]
  rfl

end Store

/-! ## The clock -/

theorem min?_congr {times others : List Nat} (same : ∀ t, t ∈ times ↔ t ∈ others) :
    times.min? = others.min? := by
  cases least : others.min? with
  | none =>
    rw [List.min?_eq_none_iff] at least ⊢
    rw [least] at same
    exact List.eq_nil_iff_forall_not_mem.2 fun t member => List.not_mem_nil ((same t).1 member)
  | some t =>
    rw [List.min?_eq_some_iff] at least ⊢
    exact ⟨(same t).2 least.1, fun other member => least.2 other ((same other).1 member)⟩

theorem max?_congr {times others : List Nat} (same : ∀ t, t ∈ times ↔ t ∈ others) :
    times.max? = others.max? := by
  cases greatest : others.max? with
  | none =>
    rw [List.max?_eq_none_iff] at greatest ⊢
    rw [greatest] at same
    exact List.eq_nil_iff_forall_not_mem.2 fun t member => List.not_mem_nil ((same t).1 member)
  | some t =>
    rw [List.max?_eq_some_iff] at greatest ⊢
    exact ⟨(same t).2 greatest.1, fun other member => greatest.2 other ((same other).1 member)⟩

namespace Ledger

theorem shown_insertAll {store : Store} {done : Ledger} (shown : Shown store done)
    (lines : Ledger) : Shown (store.insertAll lines) (done ++ lines) := by
  induction lines generalizing store done with
  | nil => simpa [Store.insertAll] using shown
  | cons line rest ih => simpa [Store.insertAll_cons] using ih (shown_insert shown line)

end Ledger

namespace Store

variable (store : Store)

theorem ids_saved : store.saved.ids = store.ids := by
  simp [saved, ids, Function.comp_def, Node.saved]

theorem node?_saved (id : NodeId) : store.saved.node? id = (store.node? id).map Node.saved := by
  rw [node?, saved, List.find?_map]
  rfl

theorem edge?_saved (source target : NodeId) :
    store.saved.edge? source target = (store.edge? source target).map Edge.saved := by
  rw [edge?_eq, node?_saved, edge?_eq, Option.bind_map, Option.map_bind]
  congr 1
  funext node
  simp only [Function.comp_apply, Node.edgeTo?, Node.saved, List.find?_map]
  rfl

/-- The updates in the order of the file make the graph itself, without what the file does not
hold. -/
theorem insertAll_grouped {store : Store} {ledger : Ledger} (shown : Ledger.Shown store ledger)
    (valid : store.WellFormed) : Store.empty.insertAll store.grouped = store.saved := by
  have rebuilt := Ledger.shown_insertAll Ledger.shown_empty store.grouped
  rw [List.nil_append] at rebuilt
  have nodes : ∀ id, (Store.empty.insertAll store.grouped).node? id = store.saved.node? id := by
    intro id
    rw [rebuilt.node?, Ledger.node?, ids_grouped valid, node?_saved]
    by_cases known : id ∈ store.ids
    · obtain ⟨node, found⟩ := exists_node? known
      rw [if_pos known, node_grouped valid found, found]
      rfl
    · rw [if_neg known, node?_eq_none.2 known]
      rfl
  -- The clock only looks at which times there are, and both ledgers have those of the histories.
  have times : ∀ t, t ∈ store.grouped.map Insertion.time ↔ t ∈ ledger.map Insertion.time := by
    intro t
    have edges : ∀ source target, (Store.empty.insertAll store.grouped).edge? source target =
        (store.edge? source target).map Edge.saved := by
      intro source target
      rw [edge?_eq, nodes, ← edge?_eq, edge?_saved]
    rw [shown.mem_times, rebuilt.mem_times]
    simp only [nodes, edges, node?_saved, Option.map_eq_some_iff, exists_exists_and_eq_and,
      Node.history_saved, Edge.history_saved]
  apply ext_views
  · rw [rebuilt.ids, ids_grouped valid]
    exact valid.distinct
  · rw [rebuilt.ids, ids_grouped valid, ids_saved]
  · exact nodes
  · have settled := kindSettled_insertAll wellFormed_empty.kindSettled store.grouped
    rw [settled, rebuilt.ids, ids_grouped valid]
    exact valid.kindSettled.symm
  · rw [rebuilt.earliest]
    exact (min?_congr times).trans shown.earliest.symm
  · rw [rebuilt.latest]
    exact (max?_congr times).trans shown.latest.symm

end Store

end TemporalNetwork
