import TemporalNetwork.Store.Query

/-!
What the operations of a store do to its two views: the list of its ids and the node under an id.
A store whose ids are distinct is given back by these views, so every later law about a store is
stated through them.
-/

namespace TemporalNetwork

-- Where no two items have one key, an item is the one that is found under its key.
theorem find?_key {α : Type} {key : α → NodeId} {items : List α} (distinct : (items.map key).Nodup)
    {item : α} (member : item ∈ items) : items.find? (key · = key item) = some item := by
  induction items with
  | nil => cases member
  | cons first rest ih =>
    rw [List.map_cons, List.nodup_cons] at distinct
    rcases List.mem_cons.1 member with same | later
    · simp [same]
    · have other : key first ≠ key item := by
        intro same
        exact distinct.1 (same ▸ List.mem_map_of_mem later)
      simpa [other] using ih distinct.2 later

namespace Edge

variable (edge : Edge) (t : Nat) (argument : Value)

@[simp] theorem target_record : (edge.record t).target = edge.target := rfl
@[simp] theorem type_record : (edge.record t).type = edge.type := rfl
@[simp] theorem properties_record : (edge.record t).properties = edge.properties := rfl
@[simp] theorem times_record : (edge.record t).history.times = edge.history.times ++ [t] := rfl

@[simp] theorem target_merge : (edge.merge argument).target = edge.target := rfl
@[simp] theorem type_merge : (edge.merge argument).type = edge.type := rfl
@[simp] theorem history_merge : (edge.merge argument).history = edge.history := rfl

end Edge

namespace Node

variable (node : Node) (t : Nat) (target : NodeId) (type argument : Value)

@[simp] theorem id_record : (node.record t type).id = node.id := rfl
@[simp] theorem edges_record : (node.record t type).edges = node.edges := rfl
@[simp] theorem properties_record : (node.record t type).properties = node.properties := rfl
@[simp] theorem times_record :
    (node.record t type).history.times = node.history.times ++ [t] := rfl

@[simp] theorem id_merge : (node.merge argument).id = node.id := rfl
@[simp] theorem edges_merge : (node.merge argument).edges = node.edges := rfl
@[simp] theorem history_merge : (node.merge argument).history = node.history := rfl
@[simp] theorem type_merge : (node.merge argument).type = node.type := rfl

@[simp] theorem id_alterEdge (change : Edge → Edge) :
    (node.alterEdge target change).id = node.id := rfl
@[simp] theorem history_alterEdge (change : Edge → Edge) :
    (node.alterEdge target change).history = node.history := rfl
@[simp] theorem type_alterEdge (change : Edge → Edge) :
    (node.alterEdge target change).type = node.type := rfl
@[simp] theorem properties_alterEdge (change : Edge → Edge) :
    (node.alterEdge target change).properties = node.properties := rfl

@[simp] theorem id_touchEdge : (node.touchEdge t target type).id = node.id := by
  unfold touchEdge; split <;> rfl
@[simp] theorem history_touchEdge : (node.touchEdge t target type).history = node.history := by
  unfold touchEdge; split <;> rfl
@[simp] theorem type_touchEdge : (node.touchEdge t target type).type = node.type := by
  unfold touchEdge; split <;> rfl
@[simp] theorem properties_touchEdge :
    (node.touchEdge t target type).properties = node.properties := by
  unfold touchEdge; split <;> rfl

end Node

/-! ## Edges of a node -/

namespace Node

def targets (node : Node) : List NodeId := node.edges.map (·.target)

def edgeTo? (node : Node) (target : NodeId) : Option Edge :=
  node.edges.find? (·.target = target)

theorem edgeTo?_eq_none {node : Node} {target : NodeId} :
    node.edgeTo? target = none ↔ target ∉ node.targets := by
  simp only [edgeTo?, List.find?_eq_none, decide_eq_true_eq, targets, List.mem_map, not_exists,
    not_and]

theorem touchEdge_of_mem {node : Node} {target : NodeId} (known : target ∈ node.targets) (t : Nat)
    (type : Value) : node.touchEdge t target type = node.alterEdge target (·.record t) := by
  have present : node.edges.any (·.target = target) = true := by
    simpa [targets, List.any_eq_true] using known
  simp [touchEdge, present]

theorem touchEdge_of_not_mem {node : Node} {target : NodeId} (new : target ∉ node.targets)
    (t : Nat) (type : Value) :
    node.touchEdge t target type =
      { node with edges := node.edges ++ [.create t target type] } := by
  have absent : node.edges.any (·.target = target) = false := by
    rw [List.any_eq_false]
    intro edge member same
    exact new (List.mem_map.2 ⟨edge, member, by simpa using same⟩)
  simp [touchEdge, absent]

theorem edges_touchEdge_history (node : Node) (history : History) (t : Nat) (target : NodeId)
    (type : Value) :
    (({ node with history } : Node).touchEdge t target type).edges =
      (node.touchEdge t target type).edges := by
  unfold touchEdge; split <;> rfl

theorem targets_alterEdge (node : Node) (target : NodeId) {change : Edge → Edge}
    (keeps : ∀ edge, (change edge).target = edge.target) :
    (node.alterEdge target change).targets = node.targets := by
  simp only [targets, alterEdge, List.map_map]
  apply List.map_congr_left
  intro edge _
  by_cases hit : edge.target = target <;> simp [hit, keeps]

theorem targets_touchEdge (node : Node) (t : Nat) (target : NodeId) (type : Value) :
    (node.touchEdge t target type).targets =
      if target ∈ node.targets then node.targets else node.targets ++ [target] := by
  by_cases known : target ∈ node.targets
  · rw [touchEdge_of_mem known, if_pos known]
    exact targets_alterEdge node target fun edge => edge.target_record t
  · rw [touchEdge_of_not_mem known, if_neg known]
    simp [targets, Edge.create]

theorem edgeTo?_alterEdge (node : Node) (target asked : NodeId) {change : Edge → Edge}
    (keeps : ∀ edge, (change edge).target = edge.target) :
    (node.alterEdge target change).edgeTo? asked =
      if asked = target then (node.edgeTo? target).map change else node.edgeTo? asked := by
  simp only [edgeTo?, alterEdge]
  induction node.edges with
  | nil => simp
  | cons edge rest ih =>
    by_cases hit : edge.target = target
    · by_cases same : asked = target
      · simp [hit, same, keeps]
      · simpa [hit, same, keeps, Ne.symm same] using ih
    · by_cases same : asked = target
      · subst same
        simpa [hit] using ih
      · by_cases wanted : edge.target = asked
        · simp [same, wanted]
        · simpa [hit, same, wanted] using ih

theorem edgeTo?_touchEdge (node : Node) (t : Nat) (target asked : NodeId) (type : Value) :
    (node.touchEdge t target type).edgeTo? asked =
      if asked = target then
        some (((node.edgeTo? target).map (·.record t)).getD (.create t target type))
      else node.edgeTo? asked := by
  by_cases known : target ∈ node.targets
  · rw [touchEdge_of_mem known, edgeTo?_alterEdge node target asked fun edge => edge.target_record t]
    cases found : node.edgeTo? target with
    | none => exact absurd known (edgeTo?_eq_none.1 found)
    | some edge => simp
  · have absent := edgeTo?_eq_none.2 known
    rw [touchEdge_of_not_mem known, absent]
    simp only [edgeTo?, List.find?_append] at absent ⊢
    by_cases same : asked = target
    · simp [same, absent, Edge.create]
    · simp [same, Edge.create, Ne.symm same]

end Node

/-! ## Nodes of a store -/

namespace Store

theorem edge?_eq (store : Store) (source target : NodeId) :
    store.edge? source target = (store.node? source).bind (·.edgeTo? target) := rfl

theorem node?_eq_none {store : Store} {id : NodeId} :
    store.node? id = none ↔ id ∉ store.ids := by
  simp only [node?, List.find?_eq_none, decide_eq_true_eq, ids, List.mem_map, not_exists, not_and]

theorem id_of_node? {store : Store} {id : NodeId} {node : Node}
    (found : store.node? id = some node) : node.id = id := by
  simpa using List.find?_some found

theorem mem_ids_of_node? {store : Store} {id : NodeId} {node : Node}
    (found : store.node? id = some node) : id ∈ store.ids := by
  by_cases member : id ∈ store.ids
  · exact member
  · rw [node?_eq_none.2 member] at found
    cases found

theorem exists_node? {store : Store} {id : NodeId} (member : id ∈ store.ids) :
    ∃ node, store.node? id = some node := by
  cases found : store.node? id with
  | none => exact absurd member (node?_eq_none.1 found)
  | some node => exact ⟨node, rfl⟩

theorem contains_eq (store : Store) (id : NodeId) :
    store.contains id = decide (id ∈ store.ids) := by
  rw [Bool.eq_iff_iff]
  simp [contains, ids, List.any_eq_true]

theorem touchNode_of_mem {store : Store} {id : NodeId} (known : id ∈ store.ids) (t : Nat)
    (type : Value) : store.touchNode t id type = store.alterNode id (·.record t type) := by
  simp [touchNode, contains_eq, known]

theorem touchNode_of_not_mem {store : Store} {id : NodeId} (new : id ∉ store.ids) (t : Nat)
    (type : Value) :
    store.touchNode t id type =
      { store with
        nodes := store.nodes ++ [.create t id type]
        kind? := store.kind?.or (some id.kind) } := by
  simp [touchNode, contains_eq, new]

-- With distinct ids every node is the one that is found under its id.
theorem node?_of_mem {store : Store} (distinct : store.ids.Nodup) {node : Node}
    (member : node ∈ store.nodes) : store.node? node.id = some node :=
  find?_key distinct member

theorem map_some_nodes {store : Store} (distinct : store.ids.Nodup) :
    store.nodes.map some = store.ids.map store.node? := by
  simp only [ids, List.map_map]
  apply List.map_congr_left
  intro node member
  exact (node?_of_mem distinct member).symm

/-! ## Asking by the value of an id -/

theorem unhashable?_toValue (id : NodeId) : id.toValue.unhashable? = none := by
  cases id <;> rfl

theorem nodeNamed?_toValue (store : Store) (id : NodeId) :
    store.nodeNamed? id.toValue = store.node? id := by
  rw [nodeNamed?, NodeId.named?_toValue, Option.bind_some]

theorem edgeNamed?_toValue (store : Store) (source target : NodeId) :
    store.edgeNamed? source.toValue target.toValue = .ok (store.edge? source target) := by
  simp only [edgeNamed?, unhashable?_toValue, nodeNamed?_toValue, NodeId.named?_toValue,
    Option.bind_some, edge?_eq]
  cases store.node? source <;> rfl

/-! ## The views make the store -/

theorem ext_views {store other : Store} (distinct : store.ids.Nodup)
    (sameIds : store.ids = other.ids) (sameNodes : ∀ id, store.node? id = other.node? id)
    (sameKind : store.kind? = other.kind?) (sameEarliest : store.earliest = other.earliest)
    (sameLatest : store.latest = other.latest) : store = other := by
  have sameNodeLists : store.nodes.map some = other.nodes.map some := by
    rw [map_some_nodes distinct, map_some_nodes (sameIds ▸ distinct), sameIds]
    exact List.map_congr_left fun id _ => sameNodes id
  have nodes := (List.map_inj_right fun _ _ => Option.some.inj).1 sameNodeLists
  exact Store.ext nodes sameKind sameEarliest sameLatest

/-! ## Operations -/

theorem ids_alterNode (store : Store) (id : NodeId) {change : Node → Node}
    (keeps : ∀ node, (change node).id = node.id) : (store.alterNode id change).ids = store.ids := by
  simp only [ids, alterNode, List.map_map]
  apply List.map_congr_left
  intro node _
  by_cases hit : node.id = id <;> simp [hit, keeps]

theorem node?_alterNode (store : Store) (id asked : NodeId) {change : Node → Node}
    (keeps : ∀ node, (change node).id = node.id) :
    (store.alterNode id change).node? asked =
      if asked = id then (store.node? id).map change else store.node? asked := by
  simp only [node?, alterNode]
  induction store.nodes with
  | nil => simp
  | cons node rest ih =>
    by_cases hit : node.id = id
    · by_cases same : asked = id
      · simp [hit, same, keeps]
      · simpa [hit, same, keeps, Ne.symm same] using ih
    · by_cases same : asked = id
      · subst same
        simpa [hit] using ih
      · by_cases wanted : node.id = asked
        · simp [same, wanted]
        · simpa [hit, same, wanted] using ih

variable (store : Store) (t : Nat) (id asked source target : NodeId) (type argument : Value)

theorem ids_touchNode :
    (store.touchNode t id type).ids =
      if id ∈ store.ids then store.ids else store.ids ++ [id] := by
  by_cases known : id ∈ store.ids
  · rw [touchNode_of_mem known, if_pos known]
    exact ids_alterNode store id fun node => node.id_record t type
  · rw [touchNode_of_not_mem known, if_neg known]
    simp [ids, Node.create]

theorem node?_touchNode :
    (store.touchNode t id type).node? asked =
      if asked = id then
        some (((store.node? id).map (·.record t type)).getD (.create t id type))
      else store.node? asked := by
  by_cases known : id ∈ store.ids
  · obtain ⟨node, found⟩ := exists_node? known
    rw [touchNode_of_mem known, node?_alterNode store id asked fun node => node.id_record t type,
      found]
    rfl
  · have absent := node?_eq_none.2 known
    rw [touchNode_of_not_mem known, absent]
    simp only [node?, List.find?_append] at absent ⊢
    by_cases same : asked = id
    · simp [same, absent, Node.create]
    · simp [same, Node.create, Ne.symm same]

theorem ids_ensureNode :
    (store.ensureNode t id).ids = if id ∈ store.ids then store.ids else store.ids ++ [id] := by
  rw [ensureNode, contains_eq]
  by_cases known : id ∈ store.ids
  · simp [known]
  · simp [known, ids_touchNode]

theorem node?_ensureNode :
    (store.ensureNode t id).node? asked =
      if asked = id then some ((store.node? id).getD (.create t id .none))
      else store.node? asked := by
  rw [ensureNode, contains_eq]
  by_cases known : id ∈ store.ids
  · obtain ⟨node, found⟩ := exists_node? known
    by_cases same : asked = id
    · simp [known, same, found]
    · simp [known, same]
  · simp [known, node?_touchNode, node?_eq_none.2 known]

theorem ids_touchEdge : (store.touchEdge t source target type).ids = store.ids :=
  ids_alterNode store source fun node => node.id_touchEdge t target type

theorem node?_touchEdge :
    (store.touchEdge t source target type).node? asked =
      if asked = source then (store.node? source).map (·.touchEdge t target type)
      else store.node? asked :=
  node?_alterNode store source asked fun node => node.id_touchEdge t target type

theorem ids_mergeNode : (store.mergeNode id argument).1.ids = store.ids :=
  ids_alterNode store id fun node => node.id_merge argument

theorem node?_mergeNode :
    (store.mergeNode id argument).1.node? asked =
      if asked = id then (store.node? id).map (·.merge argument) else store.node? asked :=
  node?_alterNode store id asked fun node => node.id_merge argument

theorem ids_mergeEdge : (store.mergeEdge source target argument).1.ids = store.ids :=
  ids_alterNode store source fun node => node.id_alterEdge target _

theorem node?_mergeEdge :
    (store.mergeEdge source target argument).1.node? asked =
      if asked = source then (store.node? source).map (·.alterEdge target (·.merge argument))
      else store.node? asked :=
  node?_alterNode store source asked fun node => node.id_alterEdge target _

/-! ## The kind of ids, which only a new node can settle -/

/-- The kind that is settled is that of the first node. -/
def KindSettled : Prop := store.kind? = store.ids.head?.map NodeId.kind

variable {store t id source target type argument}

theorem kindSettled_alterNode (settled : store.KindSettled) {change : Node → Node}
    (keeps : ∀ node, (change node).id = node.id) : (store.alterNode id change).KindSettled := by
  rw [KindSettled, ids_alterNode store id keeps]
  exact settled

theorem kindSettled_touchNode (settled : store.KindSettled) :
    (store.touchNode t id type).KindSettled := by
  by_cases known : id ∈ store.ids
  · rw [touchNode_of_mem known]
    exact kindSettled_alterNode settled fun node => node.id_record t type
  · rw [KindSettled, ids_touchNode, if_neg known, touchNode_of_not_mem known]
    -- The first node of all settles the kind, every later one finds it settled.
    rw [KindSettled] at settled
    rw [settled]
    cases store.ids <;> rfl

theorem kindSettled_ensureNode (settled : store.KindSettled) :
    (store.ensureNode t id).KindSettled := by
  rw [ensureNode]
  split
  · exact settled
  · exact kindSettled_touchNode settled

variable (store t id source target type argument)

/-! ## The clock, which only the end of an update moves -/

@[simp] theorem earliest_alterNode (change : Node → Node) :
    (store.alterNode id change).earliest = store.earliest := rfl
@[simp] theorem latest_alterNode (change : Node → Node) :
    (store.alterNode id change).latest = store.latest := rfl

@[simp] theorem earliest_touchNode : (store.touchNode t id type).earliest = store.earliest := by
  unfold touchNode; split <;> rfl
@[simp] theorem latest_touchNode : (store.touchNode t id type).latest = store.latest := by
  unfold touchNode; split <;> rfl

@[simp] theorem earliest_ensureNode : (store.ensureNode t id).earliest = store.earliest := by
  unfold ensureNode; split <;> simp
@[simp] theorem latest_ensureNode : (store.ensureNode t id).latest = store.latest := by
  unfold ensureNode; split <;> simp

@[simp] theorem ids_advance : (store.advance t).ids = store.ids := rfl

@[simp] theorem node?_advance : (store.advance t).node? asked = store.node? asked := rfl

end Store

end TemporalNetwork
