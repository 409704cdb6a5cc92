import TemporalNetwork.Proofs.Store.Ledger
import TemporalNetwork.Store.Query

/-!
A store against its ledger. A step of the store and a line of the ledger agree in every part, so
after any calls the store is what the ledger of the accepted ones reads: no update is lost, none is
made twice, and a refused call leaves no trace.
-/

namespace TemporalNetwork

namespace Ledger

/-- The store shows in each of its parts what the ledger reads. -/
structure Shown (store : Store) (ledger : Ledger) : Prop where
  ids : store.ids = ledger.ids
  node? : ∀ id, store.node? id = ledger.node? id
  earliest : store.earliest = ledger.earliest
  latest : store.latest = ledger.latest

theorem shown_empty : Shown .empty [] where
  ids := rfl
  node? _ := rfl
  earliest := rfl
  latest := rfl

/-! ## Lines of a node -/

theorem lastType_concat (lines : List Line) (line : Line) :
    lastType (lines ++ [line]) =
      match line.type with
      | .none => lastType lines
      | type => type := by
  simp only [lastType, List.map_append, List.map_cons, List.map_nil, List.filter_append]
  cases line.type <;> simp [Value.kind]

theorem mergeAll_concat (lines : List Line) (line : Line) :
    mergeAll (lines ++ [line]) = ((mergeAll lines).merge line.properties).1 := by
  simp [mergeAll]

variable (ledger : Ledger)

theorem node_eq_of_lines {other : Ledger} {id : NodeId}
    (times : other.nodeTimes id = ledger.nodeTimes id)
    (lines : other.nodeLines id = ledger.nodeLines id)
    (targets : other.targets id = ledger.targets id)
    (edges : ∀ target, other.edgeLines id target = ledger.edgeLines id target) :
    other.node id = ledger.node id := by
  have sameEdges : other.edge id = ledger.edge id := by
    funext target
    simp only [edge, edgeTimes, edgeType, edges]
  simp only [node, times, nodeType, lines, targets, sameEdges]

theorem node_concat_node {t : Nat} {id : NodeId} {type properties : Value}
    (known : id ∈ ledger.ids) :
    node (ledger ++ [.node t id type properties]) id =
      ((ledger.node id).record t type).merge properties := by
  have line : nodeLines (ledger ++ [.node t id type properties]) id =
      ledger.nodeLines id ++ [{ time := t, type, properties }] := by
    simp [nodeLines_concat, nodeLine?]
  have times : nodeTimes (ledger ++ [.node t id type properties]) id =
      ledger.nodeTimes id ++ [t] := by
    simp [nodeTimes, ledger.bornWith?_concat_of_mem known, line]
  have edges : edge (ledger ++ [.node t id type properties]) id = ledger.edge id := by
    funext target
    simp [edge, edgeTimes, edgeType, edgeLines_concat, edgeLine?]
  have targets : Ledger.targets (ledger ++ [.node t id type properties]) id =
      ledger.targets id := ledger.targets_concat _ id
  have kind : nodeType (ledger ++ [.node t id type properties]) id =
      ((ledger.node id).record t type).type := by
    cases type <;> simp [nodeType, line, lastType_concat, Node.record, node]
  have grown := History.record_ofTimes (ledger.nodeTimes_ne_nil known) t
  apply Node.ext
  · rfl
  · exact (congrArg History.ofTimes times).trans grown.symm
  · exact kind
  · exact (congrArg mergeAll line).trans (mergeAll_concat _ _)
  · simp only [node, Node.merge, Node.record, targets, edges]

theorem targets_of_not_mem {id : NodeId} (new : id ∉ ledger.ids) : ledger.targets id = [] := by
  rw [List.eq_nil_iff_forall_not_mem]
  intro target linked
  exact new (ledger.source_mem_ids linked)

theorem node_concat_new {t : Nat} {id : NodeId} {type properties : Value}
    (new : id ∉ ledger.ids) :
    node (ledger ++ [.node t id type properties]) id =
      (Node.create t id type).merge properties := by
  have line : nodeLines (ledger ++ [.node t id type properties]) id =
      [{ time := t, type, properties }] := by
    simp [nodeLines_concat, nodeLine?, ledger.nodeLines_of_not_mem new]
  have times : nodeTimes (ledger ++ [.node t id type properties]) id = [t] := by
    rw [nodeTimes, ledger.bornWith?_concat_of_not_mem new, line]
    simp [bornWith?, Insertion.mentions]
  have noTargets : targets (ledger ++ [.node t id type properties]) id = [] := by
    simp [targets_concat, targetFrom?, Store.joinIds, ledger.targets_of_not_mem new]
  have lone : lastType [{ time := t, type, properties }] = type := by
    cases type <;> rfl
  simp only [node, times, line, noTargets, nodeType, lone]
  rfl

theorem node?_concat_node (t : Nat) (id asked : NodeId) (type properties : Value) :
    node? (ledger ++ [.node t id type properties]) asked =
      if asked = id then
        some ((((ledger.node? id).map (Node.record · t type)).getD (Node.create t id type)).merge
          properties)
      else ledger.node? asked := by
  by_cases same : asked = id
  · subst same
    have mentioned : asked ∈ ids (ledger ++ [.node t asked type properties]) :=
      ledger.mem_ids_concat.2 (.inr (by simp [Insertion.mentions]))
    -- A known node is changed, a new one begins with this line.
    by_cases known : asked ∈ ledger.ids
    · simp [node?, mentioned, known, ledger.node_concat_node known]
    · simp [node?, mentioned, known, ledger.node_concat_new known]
  · have membership : asked ∈ ids (ledger ++ [.node t id type properties]) ↔ asked ∈ ledger.ids := by
      simp [mem_ids_concat, Insertion.mentions, same]
    have lines : nodeLines (ledger ++ [.node t id type properties]) asked =
        ledger.nodeLines asked := by
      simp [nodeLines_concat, nodeLine?, Ne.symm same]
    by_cases known : asked ∈ ledger.ids
    · have kept : node (ledger ++ [.node t id type properties]) asked = ledger.node asked := by
        apply node_eq_of_lines
        · rw [nodeTimes, nodeTimes, ledger.bornWith?_concat_of_mem known, lines]
        · exact lines
        · simp [targets_concat, targetFrom?, Store.joinIds]
        · simp [edgeLines_concat, edgeLine?]
      simp [node?, membership, known, same, kept]
    · simp [node?, membership, known, same]

/-! ## Lines of an edge -/

theorem edge_target (source target : NodeId) : (ledger.edge source target).target = target := rfl

theorem targets_node (id : NodeId) : (ledger.node id).targets = ledger.targets id := by
  simp [Node.targets, node, Function.comp_def, edge_target]

theorem edgeLines_concat_edge (t : Nat) (source target asked : NodeId) (type properties : Value) :
    edgeLines (ledger ++ [.edge t source target type properties]) source asked =
      ledger.edgeLines source asked ++
        if asked = target then [{ time := t, type, properties }] else [] := by
  rw [edgeLines_concat]
  by_cases same : asked = target
  · simp [edgeLine?, same]
  · simp [edgeLine?, same, Ne.symm same]

theorem edge_concat_edge {t : Nat} {source target : NodeId} {type properties : Value}
    (known : target ∈ ledger.targets source) :
    edge (ledger ++ [.edge t source target type properties]) source target =
      ((ledger.edge source target).record t).merge properties := by
  obtain ⟨first, rest, lines⟩ := List.exists_cons_of_ne_nil (ledger.mem_targets.1 known)
  simp only [edge, Edge.record, Edge.merge, edgeTimes, edgeType, edgeLines_concat_edge,
    ↓reduceIte, mergeAll_concat, lines]
  simp [History.ofTimes, History.record]

theorem edge_concat_new {t : Nat} {source target : NodeId} {type properties : Value}
    (new : target ∉ ledger.targets source) :
    edge (ledger ++ [.edge t source target type properties]) source target =
      (Edge.create t target type).merge properties := by
  have none : ledger.edgeLines source target = [] := by
    by_contra some
    exact new (ledger.mem_targets.2 some)
  simp only [edge, edgeTimes, edgeType, edgeLines_concat_edge, ↓reduceIte, none]
  rfl

theorem edge_concat_of_ne {t : Nat} {source target asked : NodeId} {type properties : Value}
    (other : asked ≠ target) :
    edge (ledger ++ [.edge t source target type properties]) source asked =
      ledger.edge source asked := by
  simp [edge, edgeTimes, edgeType, edgeLines_concat_edge, other]

-- The edges of a source after one more of them: the target's edge takes the update, or is new at
-- the end.
theorem edges_concat_edge (t : Nat) (source target : NodeId) (type properties : Value) :
    (targets (ledger ++ [.edge t source target type properties]) source).map
        (edge (ledger ++ [.edge t source target type properties]) source) =
      ((((ledger.node source).touchEdge t target type).alterEdge target
        (·.merge properties))).edges := by
  have noted : targets (ledger ++ [.edge t source target type properties]) source =
      if target ∈ ledger.targets source then ledger.targets source
      else ledger.targets source ++ [target] := by
    simp [targets_concat, targetFrom?, Store.joinIds]
  -- An edge that is there keeps its place among the edges, a new one comes last.
  by_cases known : target ∈ ledger.targets source
  · rw [noted, if_pos known, Node.touchEdge_of_mem (by rwa [targets_node])]
    simp only [Node.alterEdge, node, List.map_map]
    apply List.map_congr_left
    intro asked _
    by_cases same : asked = target
    · subst same
      simp [edge_target, ledger.edge_concat_edge known]
    · simp [edge_target, same, ledger.edge_concat_of_ne same]
  · rw [noted, if_neg known, Node.touchEdge_of_not_mem (by rwa [targets_node])]
    simp only [Node.alterEdge, node, List.map_append, List.map_map, List.map_cons, List.map_nil]
    congr 1
    · apply List.map_congr_left
      intro asked member
      have other : asked ≠ target := by
        intro same
        exact known (same ▸ member)
      simp [edge_target, other, ledger.edge_concat_of_ne other]
    · simp [ledger.edge_concat_new known, Edge.create]

theorem nodeLines_concat_edge (t : Nat) (source target id : NodeId) (type properties : Value) :
    nodeLines (ledger ++ [.edge t source target type properties]) id = ledger.nodeLines id := by
  simp [nodeLines_concat, nodeLine?]

-- A node that an edge brings with it was born with that edge.
theorem nodeTimes_concat_edge {t : Nat} {source target id : NodeId} {type properties : Value}
    (mentioned : id = source ∨ id = target) :
    nodeTimes (ledger ++ [.edge t source target type properties]) id =
      if id ∈ ledger.ids then ledger.nodeTimes id else [t] := by
  by_cases known : id ∈ ledger.ids
  · simp [nodeTimes, ledger.bornWith?_concat_of_mem known, nodeLines_concat_edge, known]
  · have named : bornWith? [.edge t source target type properties] id = some t := by
      simp [bornWith?, Insertion.mentions, mentioned]
    simp [nodeTimes, ledger.bornWith?_concat_of_not_mem known, nodeLines_concat_edge, known, named,
      ledger.nodeLines_of_not_mem known]

theorem node_of_not_mem {id : NodeId} (new : id ∉ ledger.ids) (t : Nat) :
    Node.create t id .none = { ledger.node id with history := .start t } := by
  simp only [Node.create, node, ledger.targets_of_not_mem new, nodeType,
    ledger.nodeLines_of_not_mem new]
  rfl

-- What an edge makes of the nodes it names before it is recorded itself.
theorem getD_node? (t : Nat) (id : NodeId) :
    (ledger.node? id).getD (Node.create t id .none) =
      { ledger.node id with
        history := .ofTimes (if id ∈ ledger.ids then ledger.nodeTimes id else [t]) } := by
  by_cases known : id ∈ ledger.ids
  · simp only [node?, known, ↓reduceIte, Option.getD_some]
    rfl
  · simp only [node?, known, ↓reduceIte, Option.getD_none, ledger.node_of_not_mem known]
    rfl

theorem node_concat_source (t : Nat) (source target : NodeId) (type properties : Value) :
    node (ledger ++ [.edge t source target type properties]) source =
      (((ledger.node? source).getD (Node.create t source .none)).touchEdge t target type).alterEdge
        target (·.merge properties) := by
  rw [getD_node?]
  apply Node.ext
  · simp [node]
  · simp [node, ledger.nodeTimes_concat_edge (.inl rfl)]
  · simp [node, nodeType, nodeLines_concat_edge]
  · simp [node, nodeLines_concat_edge]
  · rw [show (node (ledger ++ [.edge t source target type properties]) source).edges = _ from
      ledger.edges_concat_edge t source target type properties]
    simp only [Node.alterEdge, Node.edges_touchEdge_history]

-- An edge changes nothing of a node that is not its source, but it may bring the node with it.
theorem node_concat_other {t : Nat} {source target id : NodeId} {type properties : Value}
    (other : id ≠ source) :
    node (ledger ++ [.edge t source target type properties]) id =
      { ledger.node id with
        history := .ofTimes (nodeTimes (ledger ++ [.edge t source target type properties]) id) } := by
  have sameTargets : targets (ledger ++ [.edge t source target type properties]) id =
      ledger.targets id := by
    simp [targets_concat, targetFrom?, Store.joinIds, Ne.symm other]
  have sameEdges : edge (ledger ++ [.edge t source target type properties]) id = ledger.edge id := by
    funext asked
    simp [edge, edgeTimes, edgeType, edgeLines_concat, edgeLine?, Ne.symm other]
  simp only [node, nodeType, nodeLines_concat_edge, sameTargets, sameEdges]

theorem node?_concat_edge (t : Nat) (source target asked : NodeId) (type properties : Value) :
    node? (ledger ++ [.edge t source target type properties]) asked =
      if asked = source then
        some ((((ledger.node? source).getD (Node.create t source .none)).touchEdge t target
          type).alterEdge target (·.merge properties))
      else if asked = target then some ((ledger.node? target).getD (Node.create t target .none))
      else ledger.node? asked := by
  have membership : asked ∈ ids (ledger ++ [.edge t source target type properties]) ↔
      asked ∈ ledger.ids ∨ asked = source ∨ asked = target := by
    simp [mem_ids_concat, Insertion.mentions]
  by_cases first : asked = source
  · subst first
    have mentioned := membership.2 (.inr (.inl rfl))
    rw [node?, if_pos mentioned, if_pos rfl, node_concat_source]
  · by_cases second : asked = target
    · subst second
      have mentioned := membership.2 (.inr (.inr rfl))
      rw [node?, if_pos mentioned, if_neg first, if_pos rfl, ledger.node_concat_other first,
        getD_node?, ledger.nodeTimes_concat_edge (.inr rfl)]
    · rw [if_neg first, if_neg second]
      -- Neither source nor target: nothing of the node is read off the line.
      by_cases known : asked ∈ ledger.ids
      · have kept : nodeTimes (ledger ++ [.edge t source target type properties]) asked =
            ledger.nodeTimes asked := by
          rw [nodeTimes, ledger.bornWith?_concat_of_mem known, nodeLines_concat_edge]
          rfl
        rw [node?, if_pos (membership.2 (.inl known)), ledger.node_concat_other first, kept, node?,
          if_pos known]
        rfl
      · have unmentioned : asked ∉ ids (ledger ++ [.edge t source target type properties]) := by
          simp [membership, known, first, second]
        rw [node?, if_neg unmentioned, node?, if_neg known]

/-! ## Steps and runs -/

omit ledger in
theorem min?_concat (times : List Nat) (t : Nat) :
    (times ++ [t]).min? =
      some (match times.min? with
        | none => t
        | some known => min known t) := by
  cases times with
  | nil => rfl
  | cons first rest =>
    simp only [List.cons_append, List.min?_cons', List.foldl_append, List.foldl_cons,
      List.foldl_nil]

omit ledger in
theorem max?_concat (times : List Nat) (t : Nat) :
    (times ++ [t]).max? =
      some (match times.max? with
        | none => t
        | some known => max known t) := by
  cases times with
  | nil => rfl
  | cons first rest =>
    simp only [List.cons_append, List.max?_cons', List.foldl_append, List.foldl_cons,
      List.foldl_nil]

theorem earliest_concat (line : Insertion) :
    earliest (ledger ++ [line]) =
      some (match ledger.earliest with
        | none => line.time
        | some known => min known line.time) := by
  rw [earliest, List.map_append, List.map_singleton, min?_concat]
  rfl

theorem latest_concat (line : Insertion) :
    latest (ledger ++ [line]) =
      some (match ledger.latest with
        | none => line.time
        | some known => max known line.time) := by
  rw [latest, List.map_append, List.map_singleton, max?_concat]
  rfl

theorem shown_insert {store : Store} {ledger : Ledger} (shown : Shown store ledger)
    (line : Insertion) : Shown (store.insert line) (ledger ++ [line]) where
  ids := by rw [Store.ids_insert, shown.ids, ids_concat]
  node? asked := by
    cases line with
    | node t id type properties =>
      rw [Store.node?_insert, Store.node?_place_node, shown.node?, shown.node?, node?_concat_node]
    | edge t source target type properties =>
      rw [Store.node?_insert, Store.node?_place_edge, shown.node?, shown.node?, shown.node?,
        node?_concat_edge]
  earliest := by
    rw [earliest_concat, ← shown.earliest, ← store.earliest_place line]
    rfl
  latest := by
    rw [latest_concat, ← shown.latest, ← store.latest_place line]
    rfl

end Ledger

end TemporalNetwork
