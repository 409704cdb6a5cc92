import TemporalNetwork.Proofs.Store.Insertion

/-!
What every graph keeps, whatever calls are made on it: its ids are distinct and of one kind, which
is the kind that it has settled on, a source has at most one edge to a target, and every target is a
node. No call can break this, refused ones and those whose properties fail on the way included.
-/

namespace TemporalNetwork.Store

structure WellFormed (store : Store) : Prop where
  distinct : store.ids.Nodup
  kindSettled : store.KindSettled
  oneKind : ∀ id ∈ store.ids, ∀ other ∈ store.ids, id.kind = other.kind
  targets : ∀ {id node}, store.node? id = some node → node.targets.Nodup
  closed : ∀ {id node}, store.node? id = some node → ∀ target ∈ node.targets, target ∈ store.ids

theorem wellFormed_empty : WellFormed .empty where
  distinct := List.nodup_nil
  kindSettled := rfl
  oneKind _ member := by cases member
  targets found := by cases found
  closed found := by cases found

-- Without ids any kind is the kind of all.
theorem exists_kind {store : Store} (valid : store.WellFormed) :
    ∃ kind, ∀ id ∈ store.ids, id.kind = kind := by
  cases nodes : store.ids with
  | nil => exact ⟨.int, fun _ member => absurd member List.not_mem_nil⟩
  | cons first rest =>
    refine ⟨first.kind, fun id member => ?_⟩
    rw [← nodes] at member
    exact valid.oneKind id member first (nodes ▸ List.mem_cons_self)

-- With one kind among the ids, an id is admitted when it is of that kind.
theorem admits_iff {store : Store} (valid : store.WellFormed) {id : NodeId} :
    store.Admits id ↔ ∀ known ∈ store.ids, id.kind = known.kind := by
  rw [Admits, valid.kindSettled]
  cases nodes : store.ids with
  | nil => simp
  | cons first rest =>
    have inside : first ∈ store.ids := by simp [nodes]
    simp only [List.head?_cons, Option.map_some, Option.some.injEq, forall_eq']
    constructor
    · intro fits known member
      rw [fits]
      exact valid.oneKind first inside known (nodes ▸ member)
    · intro fits
      exact fits first List.mem_cons_self

theorem admits_of_mem {store : Store} (valid : store.WellFormed) {id : NodeId}
    (known : id ∈ store.ids) : store.Admits id :=
  (admits_iff valid).2 fun other member => valid.oneKind id known other member

-- The ids of an accepted insertion are of the kind of all the others, and of one kind.
theorem kinds_agree {store : Store} {insertion : Insertion} (valid : store.WellFormed)
    (accepted : store.Accepts insertion) :
    (∀ id ∈ insertion.mentions, ∀ known ∈ store.ids, id.kind = known.kind) ∧
      ∀ id ∈ insertion.mentions, ∀ other ∈ insertion.mentions, id.kind = other.kind := by
  cases insertion with
  | node t id type properties =>
    have admitted := (admits_iff valid).1 accepted
    simpa [Insertion.mentions] using admitted
  | edge t source target type properties =>
    obtain ⟨fromAdmitted, toAdmitted, alike⟩ := accepted
    rw [admits_iff valid] at fromAdmitted toAdmitted
    simp only [Insertion.mentions, List.mem_cons, List.not_mem_nil, or_false]
    constructor
    · rintro id (same | same)
      · exact same ▸ fromAdmitted
      · exact same ▸ toAdmitted
    · rintro id (first | first) other (second | second) <;> simp [first, second, alike]

theorem mem_edgeList {store : Store} (valid : store.WellFormed) {source : NodeId} {edge : Edge} :
    (source, edge) ∈ store.edgeList ↔
      ∃ node, store.node? source = some node ∧ edge ∈ node.edges := by
  simp only [edgeList, List.mem_flatMap, List.mem_map, Prod.mk.injEq]
  constructor
  · rintro ⟨node, member, found, inside, same, rfl⟩
    exact ⟨node, same ▸ node?_of_mem valid.distinct member, inside⟩
  · rintro ⟨node, found, inside⟩
    exact ⟨node, List.mem_of_find?_eq_some found, edge, inside, id_of_node? found, rfl⟩

/-! ## Nodes after an insertion -/

/-- Where the node under an id comes from: it is one from before, as far as its edges go, or it has
none; only the source of a new edge takes a target more. -/
theorem targets_place {store : Store} {insertion : Insertion} {id : NodeId} {node : Node}
    (found : (store.place insertion).1.node? id = some node) :
    ∃ before : Node, (store.node? id = some before ∨ before.targets = []) ∧
      (node.targets = before.targets ∨
        ∃ target ∈ insertion.mentions, node.targets = joinIds before.targets [target]) := by
  cases insertion with
  | node t named type properties =>
    rw [node?_place_node] at found
    by_cases same : id = named
    · subst same
      rw [if_pos rfl] at found
      cases old : store.node? id with
      | none =>
        rw [old] at found
        cases found
        exact ⟨.create t id type, .inr rfl, .inl rfl⟩
      | some before =>
        rw [old] at found
        cases found
        exact ⟨before, .inl rfl, .inl rfl⟩
    · rw [if_neg same] at found
      exact ⟨node, .inl found, .inl rfl⟩
  | edge t source target type properties =>
    rw [node?_place_edge] at found
    by_cases first : id = source
    · subst first
      rw [if_pos rfl] at found
      cases found
      have grown : ∀ before : Node,
          ((before.touchEdge t target type).alterEdge target (·.merge properties)).targets =
            joinIds before.targets [target] := by
        intro before
        rw [Node.targets_alterEdge _ _ fun edge => edge.target_merge properties,
          Node.targets_touchEdge]
        rfl
      have mentioned : target ∈ (Insertion.edge t id target type properties).mentions := by
        simp [Insertion.mentions]
      cases old : store.node? id with
      | none => exact ⟨.create t id .none, .inr rfl, .inr ⟨target, mentioned, grown _⟩⟩
      | some before => exact ⟨before, .inl rfl, .inr ⟨target, mentioned, grown before⟩⟩
    · rw [if_neg first] at found
      by_cases second : id = target
      · subst second
        rw [if_pos rfl] at found
        cases found
        cases old : store.node? id with
        | none => exact ⟨.create t id .none, .inr rfl, .inl rfl⟩
        | some before => exact ⟨before, .inl rfl, .inl rfl⟩
      · rw [if_neg second] at found
        exact ⟨node, .inl found, .inl rfl⟩

theorem wellFormed_place {store : Store} {insertion : Insertion} (valid : store.WellFormed)
    (accepted : store.Accepts insertion) : (store.place insertion).1.WellFormed where
  distinct := by
    rw [ids_place]
    exact nodup_joinIds valid.distinct insertion.mentions
  kindSettled := kindSettled_place valid.kindSettled insertion
  oneKind := by
    obtain ⟨withKnown, among⟩ := kinds_agree valid accepted
    intro id member other also
    rw [ids_place, mem_joinIds] at member also
    -- Each of the two ids was there, or is one that the insertion mentions.
    rcases member with old | new <;> rcases also with known | fresh
    · exact valid.oneKind id old other known
    · exact (withKnown other fresh id old).symm
    · exact withKnown id new other known
    · exact among id new other fresh
  targets := by
    intro id node found
    obtain ⟨before, origin, change⟩ := targets_place found
    have distinct : before.targets.Nodup := by
      rcases origin with old | bare
      · exact valid.targets old
      · rw [bare]
        exact List.nodup_nil
    rcases change with same | ⟨target, _, grown⟩
    · rwa [same]
    · rw [grown]
      exact nodup_joinIds distinct [target]
  closed := by
    intro id node found target member
    obtain ⟨before, origin, change⟩ := targets_place found
    have kept : ∀ known ∈ before.targets, known ∈ store.ids := by
      rcases origin with old | bare
      · exact valid.closed old
      · simp [bare]
    rw [ids_place, mem_joinIds]
    rcases change with same | ⟨added, mentioned, grown⟩
    · exact .inl (kept target (same ▸ member))
    · rw [grown, mem_joinIds, List.mem_singleton] at member
      rcases member with old | new
      · exact .inl (kept target old)
      · exact .inr (new ▸ mentioned)

theorem wellFormed_advance {store : Store} (valid : store.WellFormed) (t : Nat) :
    (store.advance t).WellFormed where
  distinct := valid.distinct
  kindSettled := valid.kindSettled
  oneKind := valid.oneKind
  targets := valid.targets
  closed := valid.closed

theorem wellFormed_insert {store : Store} {insertion : Insertion} (valid : store.WellFormed)
    (accepted : store.Accepts insertion) : (store.insert insertion).WellFormed :=
  wellFormed_advance (wellFormed_place valid accepted) insertion.time

/-- Every call keeps a graph well formed, with any arguments. -/
theorem wellFormed_perform {store : Store} (valid : store.WellFormed) (call : Call) :
    (store.perform call).1.WellFormed := by
  rcases store.perform_cases call with ⟨refusal, refused⟩ | ⟨insertion, _, accepted, performed⟩
  · rwa [refused]
  · have placed := wellFormed_place valid accepted
    rw [performed]
    cases done : store.place insertion with
    | mk after fault =>
      rw [done] at placed
      -- A fault in the properties comes after the insertion was placed; only the clock stands still.
      cases fault with
      | none => exact wellFormed_advance placed insertion.time
      | some fault => exact placed

end TemporalNetwork.Store
