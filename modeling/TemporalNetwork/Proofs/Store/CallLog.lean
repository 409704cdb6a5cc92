import TemporalNetwork.Proofs.Store.Replay

/-!
Logs of calls on an empty graph. Calls may have any arguments, and some of them are refused. Main
statement: every answer of the graph is a reading of the calls that were accepted.
-/

namespace TemporalNetwork

namespace Store

def performAll (store : Store) (calls : List Call) : Store :=
  calls.foldl (fun store call => (store.perform call).1) store

def accepted (store : Store) : List Call → List Call
  | [] => []
  | call :: rest =>
    match store.perform call with
    | (after, none) => call :: accepted after rest
    | (after, some _) => accepted after rest

end Store

namespace Ledger

/-- The answers of a store are readings of the ledger. -/
structure Answers (store : Store) (ledger : Ledger) : Prop where
  nodeIds : store.ids = ledger.ids
  hasNode : ∀ id, store.hasNode id.toValue = decide (id ∈ ledger.ids)
  nodeHistory : ∀ id ∈ ledger.ids, store.nodeHistory id.toValue = .ok (ledger.nodeTimes id)
  nodeType : ∀ id ∈ ledger.ids, store.nodeType id.toValue = .ok (ledger.nodeType id)
  nodeProperties : ∀ id node, store.node? id = some node →
    node.properties = mergeAll (ledger.nodeLines id)
  edges : store.pairs = ledger.ids.flatMap fun source => (ledger.targets source).map (source, ·)
  hasEdge : ∀ source target, store.hasEdge source.toValue target.toValue =
    .ok (decide (ledger.edgeTimes source target ≠ []))
  edgeHistory : ∀ source target, ledger.edgeTimes source target ≠ [] →
    store.edgeHistory source.toValue target.toValue = .ok (ledger.edgeTimes source target)
  edgeType : ∀ source target edge, store.edge? source target = some edge →
    edge.type = ledger.edgeType source target
  edgeProperties : ∀ source target edge, store.edge? source target = some edge →
    edge.properties = mergeAll (ledger.edgeLines source target)
  earliest : store.earliest = (ledger.map Insertion.time).min?
  latest : store.latest = (ledger.map Insertion.time).max?

/-! ## Asking a store that shows its ledger -/

theorem find?_map_edge (ledger : Ledger) (source target : NodeId) (targets : List NodeId) :
    (targets.map (ledger.edge source)).find? (·.target = target) =
      if target ∈ targets then some (ledger.edge source target) else none := by
  induction targets with
  | nil => rfl
  | cons first rest ih =>
    rw [List.map_cons, List.find?_cons, ih]
    by_cases same : first = target
    · simp [edge_target, same]
    · simp [edge_target, same, Ne.symm same]

variable {store : Store} {ledger : Ledger} (shown : Shown store ledger)
include shown

theorem Shown.node?_of_mem {id : NodeId} (known : id ∈ ledger.ids) :
    store.node? id = some (ledger.node id) := by
  rw [shown.node?, Ledger.node?, if_pos known]

theorem Shown.nodes : store.nodes = ledger.ids.map ledger.node := by
  have distinct : store.ids.Nodup := shown.ids ▸ ledger.nodup_ids
  -- Node by node, each being what is found under its id.
  apply (List.map_inj_right fun _ _ => Option.some.inj).1
  rw [Store.map_some_nodes distinct, shown.ids, List.map_map]
  apply List.map_congr_left
  intro id known
  exact shown.node?_of_mem known

theorem Shown.edge? (source target : NodeId) :
    store.edge? source target =
      if ledger.edgeTimes source target = [] then none else some (ledger.edge source target) := by
  have linked : target ∈ ledger.targets source ↔ ledger.edgeTimes source target ≠ [] := by
    rw [mem_targets, edgeTimes, ne_eq, ne_eq, List.map_eq_nil_iff]
  rw [Store.edge?_eq, shown.node?, Ledger.node?]
  by_cases known : source ∈ ledger.ids
  · rw [if_pos known, Option.bind_some, Node.edgeTo?, node, find?_map_edge]
    by_cases joined : target ∈ ledger.targets source
    · rw [if_pos joined, if_neg (linked.1 joined)]
    · rw [if_neg joined, if_pos (Classical.not_not.1 fun times => joined (linked.2 times))]
  · have loose : ¬ledger.edgeTimes source target ≠ [] := by
      intro times
      exact known (ledger.source_mem_ids (linked.2 times))
    rw [if_neg known, Option.bind_none, if_pos (Classical.not_not.1 loose)]

theorem Shown.answers : Answers store ledger where
  nodeIds := shown.ids
  hasNode id := by
    simp only [Store.hasNode, Store.nodeNamed?_toValue, shown.node?, Ledger.node?]
    by_cases known : id ∈ ledger.ids <;> simp [known]
  nodeHistory id known := by
    simp only [Store.nodeHistory, Store.nodeNamed?_toValue, shown.node?_of_mem known, node]
    rw [History.times_ofTimes (ledger.nodeTimes_ne_nil known)]
  nodeType id known := by
    simp only [Store.nodeType, Store.unhashable?_toValue, Store.nodeNamed?_toValue,
      shown.node?_of_mem known, node]
  nodeProperties id node found := by
    have known := shown.ids ▸ Store.mem_ids_of_node? found
    rw [shown.node?_of_mem known] at found
    cases found
    rfl
  edges := by
    simp only [Store.pairs, Store.edgeList, shown.nodes, List.flatMap_map, List.map_flatMap,
      List.map_map, node, Function.comp_def, edge_target]
  hasEdge source target := by
    rw [Store.hasEdge, Store.edgeNamed?_toValue, shown.edge?]
    by_cases loose : ledger.edgeTimes source target = [] <;> simp [Except.map, loose]
  edgeHistory source target times := by
    simp only [Store.edgeHistory, Store.edgeNamed?_toValue, shown.edge?, if_neg times, edge]
    rw [History.times_ofTimes times]
  edgeType source target edge found := by
    rw [shown.edge?] at found
    split at found
    · cases found
    · cases found
      rfl
  edgeProperties source target edge found := by
    rw [shown.edge?] at found
    split at found
    · cases found
    · cases found
      rfl
  earliest := shown.earliest
  latest := shown.latest

omit shown in
theorem time_mem_of_nodeTimes {id : NodeId} {t : Nat} (recorded : t ∈ ledger.nodeTimes id) :
    t ∈ ledger.map Insertion.time := by
  rcases List.mem_append.1 recorded with born | updated
  · rw [Option.mem_toList, bornWith?] at born
    split at born
    · next first =>
      cases born
      exact List.mem_map.2 ⟨_, List.mem_of_find?_eq_some first, rfl⟩
    · cases born
  · obtain ⟨line, read, rfl⟩ := List.mem_map.1 updated
    obtain ⟨origin, inside, taken⟩ := List.mem_filterMap.1 read
    refine List.mem_map.2 ⟨origin, inside, ?_⟩
    cases origin with
    | edge => cases taken
    | node =>
      simp only [nodeLine?, Option.ite_none_right_eq_some, Option.some.injEq] at taken
      exact taken.2 ▸ rfl

omit shown in
theorem time_mem_of_edgeTimes {source target : NodeId} {t : Nat}
    (recorded : t ∈ ledger.edgeTimes source target) : t ∈ ledger.map Insertion.time := by
  obtain ⟨line, read, rfl⟩ := List.mem_map.1 recorded
  obtain ⟨origin, inside, taken⟩ := List.mem_filterMap.1 read
  refine List.mem_map.2 ⟨origin, inside, ?_⟩
  cases origin with
  | node => cases taken
  | edge =>
    simp only [edgeLine?, Option.ite_none_right_eq_some, Option.some.injEq] at taken
    exact taken.2 ▸ rfl

theorem Shown.mem_times {t : Nat} :
    t ∈ ledger.map Insertion.time ↔
      (∃ id node, store.node? id = some node ∧ t ∈ node.history.times) ∨
        ∃ source target edge, store.edge? source target = some edge ∧
          t ∈ edge.history.times := by
  constructor
  · intro member
    obtain ⟨line, inside, rfl⟩ := List.mem_map.1 member
    cases line with
    | node t id type properties =>
      have known : id ∈ ledger.ids := ledger.mem_ids.2 ⟨_, inside, List.mem_cons_self⟩
      refine .inl ⟨id, ledger.node id, shown.node?_of_mem known, ?_⟩
      rw [node, History.times_ofTimes (ledger.nodeTimes_ne_nil known), nodeTimes]
      have read : { time := t, type, properties } ∈ ledger.nodeLines id :=
        List.mem_filterMap.2 ⟨_, inside, by simp [nodeLine?]⟩
      exact List.mem_append_right _ (List.mem_map.2 ⟨_, read, rfl⟩)
    | edge t source target type properties =>
      have read : { time := t, type, properties } ∈ ledger.edgeLines source target :=
        List.mem_filterMap.2 ⟨_, inside, by simp [edgeLine?]⟩
      have recorded : t ∈ ledger.edgeTimes source target := List.mem_map.2 ⟨_, read, rfl⟩
      have times := List.ne_nil_of_mem recorded
      refine .inr ⟨source, target, ledger.edge source target, ?_, ?_⟩
      · rw [shown.edge?, if_neg times]
      · rw [edge, History.times_ofTimes times]
        exact recorded
  · rintro (⟨id, node, found, recorded⟩ | ⟨source, target, edge, found, recorded⟩)
    · have known : id ∈ ledger.ids := shown.ids ▸ Store.mem_ids_of_node? found
      rw [shown.node?_of_mem known, Option.some.injEq] at found
      rw [← found, Ledger.node, History.times_ofTimes (ledger.nodeTimes_ne_nil known)] at recorded
      exact time_mem_of_nodeTimes recorded
    · rw [shown.edge?] at found
      split at found
      · cases found
      · next times =>
        rw [Option.some.injEq] at found
        rw [← found, Ledger.edge, History.times_ofTimes times] at recorded
        exact time_mem_of_edgeTimes recorded

omit shown

/-! ## Runs of calls -/

/-- A run of calls whose properties merge adds the lines of the accepted ones, in their order. -/
theorem Shown.performAll_of_merges {calls : List Call}
    (merges : ∀ call ∈ calls, call.properties.Merges) {store : Store} {done : Ledger}
    (shown : Shown store done) :
    ∃ lines : Ledger, store.accepted calls = lines.map Insertion.call ∧
      Shown (store.performAll calls) (done ++ lines) := by
  induction calls generalizing store done with
  | nil => exact ⟨[], rfl, by simpa [Store.performAll] using shown⟩
  | cons call rest ih =>
    have restMerges := fun other member => merges other (List.mem_cons_of_mem call member)
    rcases store.perform_cases call with ⟨refusal, refused⟩ | ⟨line, same, admitted, _⟩
    -- A refused call leaves the graph as it is, and no line.
    · obtain ⟨lines, agree, after⟩ := ih restMerges shown
      refine ⟨lines, ?_, ?_⟩
      · simpa [Store.accepted, refused] using agree
      · simpa [Store.performAll, refused] using after
    -- An accepted call is one line more.
    · have inserted := Store.perform_merges admitted (same ▸ merges call List.mem_cons_self)
      rw [← same] at inserted
      obtain ⟨lines, agree, after⟩ := ih restMerges (shown_insert shown line)
      refine ⟨line :: lines, ?_, ?_⟩
      · rw [Store.accepted, inserted, List.map_cons, ← same, ← agree]
      · simpa [Store.performAll, inserted] using after

theorem Shown.performAll {calls : List Call} (plain : ∀ call ∈ calls, call.properties.IsPlain)
    {store : Store} {done : Ledger} (shown : Shown store done) :
    ∃ lines : Ledger, store.accepted calls = lines.map Insertion.call ∧
      Shown (store.performAll calls) (done ++ lines) :=
  shown.performAll_of_merges fun call member => (plain call member).merges

/-- The graph is a function of the calls it accepted. Their ledger holds each of them once and in
their order, and all answers are readings of it. -/
theorem performAll_answers (calls : List Call) (plain : ∀ call ∈ calls, call.properties.IsPlain) :
    ∃ ledger : Ledger, Store.empty.accepted calls = ledger.map Insertion.call ∧
      Answers (Store.empty.performAll calls) ledger := by
  obtain ⟨ledger, agree, shown⟩ := shown_empty.performAll plain
  exact ⟨ledger, agree, shown.answers⟩

/-- An edge from a node to itself brings the node with it, a call of the other kind is refused, and
the node's own update comes after. -/
theorem performAll_answers_loop :
    let loop : Call := .edge
      { time := .int 7, source := .int 1, target := .int 1, properties := .dict [], type := .none }
    let foreign : Call := .node
      { time := .int 1, id := .text "1", properties := .none, type := .none }
    let update : Call := .node
      { time := .int 3, id := .int 1, properties := .none, type := .text "hub" }
    (∀ call ∈ [loop, foreign, update], call.properties.IsPlain) ∧
      ∃ ledger : Ledger,
        Store.empty.accepted [loop, foreign, update] = ledger.map Insertion.call ∧
        Answers (Store.empty.performAll [loop, foreign, update]) ledger := by
  intro loop foreign update
  have plain : ∀ call ∈ [loop, foreign, update], call.properties.IsPlain := by
    simp [loop, foreign, update, Call.properties, Value.IsPlain]
  exact ⟨plain, performAll_answers _ plain⟩

end Ledger

end TemporalNetwork
