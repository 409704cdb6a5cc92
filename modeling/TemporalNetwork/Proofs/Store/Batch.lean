import TemporalNetwork.Proofs.Store.WellFormed

/-!
Batches of insertions without types and properties: nodes that arrive, and links between nodes that
are there, each with its own time. Arrivals append new nodes and leave all others alone. Links leave
every node as it is apart from its edges, and an edge that is not linked stays what it was.
-/

namespace TemporalNetwork

namespace Insertion

def arrival (entry : Nat × NodeId) : Insertion := .node entry.1 entry.2 .none .none

def link (entry : Nat × NodeId × NodeId) : Insertion :=
  .edge entry.1 entry.2.1 entry.2.2 .none .none

end Insertion

/-- Gives each item a time of its own, from the one after `t` on. -/
def stamped {α : Type} (t : Nat) : List α → List (Nat × α)
  | [] => []
  | item :: rest => (t + 1, item) :: stamped (t + 1) rest

section Stamped

variable {α : Type}

theorem stamped_append (t : Nat) (first second : List α) :
    stamped t (first ++ second) = stamped t first ++ stamped (t + first.length) second := by
  induction first generalizing t with
  | nil => rfl
  | cons item rest ih =>
    have later : t + 1 + rest.length = t + (item :: rest).length := by
      simp only [List.length_cons]
      omega
    rw [List.cons_append, stamped, ih, later]
    rfl

@[simp] theorem length_stamped (t : Nat) (items : List α) :
    (stamped t items).length = items.length := by
  induction items generalizing t with
  | nil => rfl
  | cons item rest ih => simp [stamped, ih]

theorem stamped_take (t made : Nat) (items : List α) :
    stamped t (items.take made) = (stamped t items).take made := by
  induction items generalizing t made with
  | nil => simp [stamped]
  | cons item rest ih =>
    cases made with
    | zero => rfl
    | succ made => simp [stamped, ih]

@[simp] theorem map_snd_stamped (t : Nat) (items : List α) :
    (stamped t items).map Prod.snd = items := by
  induction items generalizing t with
  | nil => rfl
  | cons item rest ih => simp [stamped, ih]

theorem map_fst_stamped (t : Nat) (items : List α) :
    (stamped t items).map Prod.fst = List.range' (t + 1) items.length := by
  induction items generalizing t with
  | nil => rfl
  | cons item rest ih => simp [stamped, ih, List.range'_succ]

theorem getElem?_stamped (t : Nat) (items : List α) (i : Nat) :
    (stamped t items)[i]? = items[i]?.map (t + i + 1, ·) := by
  induction items generalizing t i with
  | nil => rfl
  | cons item rest ih =>
    cases i with
    | zero => rfl
    | succ i =>
      have later : t + 1 + i + 1 = t + (i + 1) + 1 := by omega
      rw [stamped, List.getElem?_cons_succ, ih, later]
      rfl

theorem getLast?_stamped (t : Nat) (items : List α) :
    (stamped t items).getLast? = items.getLast?.map (t + items.length, ·) := by
  rw [List.getLast?_eq_getElem?, List.getLast?_eq_getElem?, length_stamped, getElem?_stamped]
  cases items with
  | nil => rfl
  | cons item rest =>
    have last : t + (rest.length + 1 - 1) + 1 = t + (rest.length + 1) := by omega
    rw [List.length_cons, last]

-- Items stamped in two batches keep growing times, also when some are left out.
theorem pairwise_lt_stamped {β : Type} {t : Nat} {first : List α} {second : List β}
    {kept : List (Nat × α)} {more : List (Nat × β)} (among : kept.Sublist (stamped t first))
    (behind : more.Sublist (stamped (t + first.length) second)) :
    (t :: (kept.map Prod.fst ++ more.map Prod.fst)).Pairwise (· < ·) := by
  have early := among.map Prod.fst
  have late := behind.map Prod.fst
  rw [map_fst_stamped] at early late
  have next : t + first.length + 1 = t + 1 + first.length := by omega
  have whole := (early.append late).cons_cons t
  rw [next, List.range'_append_1, ← List.range'_succ] at whole
  exact (List.pairwise_lt_range' 1).sublist whole

end Stamped

theorem Edge.merge_none (edge : Edge) : edge.merge .none = edge := rfl

theorem Node.merge_none (node : Node) : node.merge .none = node := rfl

theorem Node.alterEdge_merge_none (node : Node) (target : NodeId) :
    node.alterEdge target (·.merge .none) = node := by
  simp [Node.alterEdge, Edge.merge_none]

namespace Store

def insertAll (store : Store) (insertions : List Insertion) : Store :=
  insertions.foldl insert store

theorem insertAll_cons (store : Store) (insertion : Insertion) (rest : List Insertion) :
    store.insertAll (insertion :: rest) = (store.insert insertion).insertAll rest := rfl

theorem kindSettled_insertAll {store : Store} (settled : store.KindSettled)
    (insertions : List Insertion) : (store.insertAll insertions).KindSettled := by
  induction insertions generalizing store with
  | nil => exact settled
  | cons insertion rest ih => exact ih (kindSettled_place settled insertion)

theorem insertAll_append (store : Store) (first second : List Insertion) :
    store.insertAll (first ++ second) = (store.insertAll first).insertAll second :=
  List.foldl_append

/-! ## The clock -/

theorem latest_insert (store : Store) (insertion : Insertion) :
    (store.insert insertion).latest =
      some ((store.latest.map (max · insertion.time)).getD insertion.time) := by
  rw [insert]
  simp only [advance, latest_place]
  cases store.latest <;> rfl

-- As long as the times grow, the clock is at the last insertion.
theorem latest_insertAll (store : Store) {insertions : List Insertion}
    (above : ∀ insertion ∈ insertions, store.latest.getD 0 ≤ insertion.time)
    (sorted : (insertions.map Insertion.time).Pairwise (· ≤ ·)) :
    (store.insertAll insertions).latest =
      (insertions.map Insertion.time).getLast?.or store.latest := by
  induction insertions generalizing store with
  | nil => rfl
  | cons insertion rest ih =>
    rw [List.map_cons, List.pairwise_cons] at sorted
    -- No time is before the clock, so the clock moves to the time.
    have clock : (store.insert insertion).latest = some insertion.time := by
      have grows := above insertion List.mem_cons_self
      rw [latest_insert]
      cases before : store.latest with
      | none => rfl
      | some t =>
        rw [before] at grows
        exact congrArg some (Nat.max_eq_right grows)
    have later : ∀ other ∈ rest, (store.insert insertion).latest.getD 0 ≤ other.time := by
      intro other member
      rw [clock]
      exact sorted.1 other.time (List.mem_map_of_mem member)
    rw [insertAll_cons, ih _ later sorted.2, clock, List.map_cons, List.getLast?_cons]
    cases (rest.map Insertion.time).getLast? <;> rfl

-- The clock never goes back behind what it has shown.
theorem le_latest_insertAll {store : Store} {last : Nat} (known : store.latest = some last)
    (insertions : List Insertion) :
    ∃ t, (store.insertAll insertions).latest = some t ∧ last ≤ t := by
  induction insertions generalizing store last with
  | nil => exact ⟨last, known, Nat.le_refl _⟩
  | cons insertion rest ih =>
    have moved : (store.insert insertion).latest = some (max last insertion.time) := by
      rw [latest_insert, known]
      rfl
    obtain ⟨t, shown, further⟩ := ih moved
    exact ⟨t, shown, Nat.le_trans (Nat.le_max_left _ _) further⟩

theorem earliest_insertAll {store : Store} {first : Nat} (known : store.earliest = some first)
    {insertions : List Insertion} (above : ∀ insertion ∈ insertions, first ≤ insertion.time) :
    (store.insertAll insertions).earliest = some first := by
  induction insertions generalizing store with
  | nil => exact known
  | cons insertion rest ih =>
    have stays : (store.insert insertion).earliest = some first := by
      simp only [insert, advance, earliest_place, known]
      rw [Nat.min_eq_left (above insertion List.mem_cons_self)]
    exact ih stays fun other member => above other (List.mem_cons_of_mem insertion member)

/-! ## Arrivals -/

theorem insert_arrival (store : Store) (entry : Nat × NodeId) (asked : NodeId)
    (new : entry.2 ∉ store.ids) :
    (store.insert (.arrival entry)).node? asked =
      if asked = entry.2 then some (.create entry.1 entry.2 .none) else store.node? asked := by
  rw [node?_insert, Insertion.arrival, node?_place_node, node?_eq_none.2 new]
  rfl

theorem ids_insert_arrival (store : Store) (entry : Nat × NodeId) (new : entry.2 ∉ store.ids) :
    (store.insert (.arrival entry)).ids = store.ids ++ [entry.2] :=
  store.ids_insert_node entry.1 new .none .none

theorem ids_insertAll_arrivals (store : Store) (entries : List (Nat × NodeId))
    (distinct : (store.ids ++ entries.map Prod.snd).Nodup) :
    (store.insertAll (entries.map .arrival)).ids = store.ids ++ entries.map Prod.snd := by
  induction entries generalizing store with
  | nil => simp [insertAll]
  | cons entry rest ih =>
    have new : entry.2 ∉ store.ids := by
      intro member
      exact (List.nodup_append.1 distinct).2.2 entry.2 member entry.2 List.mem_cons_self rfl
    have grown := store.ids_insert_arrival entry new
    have remaining : ((store.insert (.arrival entry)).ids ++ rest.map Prod.snd).Nodup := by
      rw [grown]
      simpa using distinct
    rw [List.map_cons, insertAll_cons, ih _ remaining, grown]
    simp

-- A node after arrivals is one that arrived, or what it was.
theorem node?_insertAll_arrivals (store : Store) (entries : List (Nat × NodeId))
    (distinct : (store.ids ++ entries.map Prod.snd).Nodup) :
    (∀ entry ∈ entries, (store.insertAll (entries.map .arrival)).node? entry.2 =
        some (.create entry.1 entry.2 .none)) ∧
      ∀ id, id ∉ entries.map Prod.snd →
        (store.insertAll (entries.map .arrival)).node? id = store.node? id := by
  induction entries generalizing store with
  | nil => exact ⟨fun entry member => (by cases member), fun id _ => rfl⟩
  | cons entry rest ih =>
    have new : entry.2 ∉ store.ids := by
      intro member
      exact (List.nodup_append.1 distinct).2.2 entry.2 member entry.2 List.mem_cons_self rfl
    have remaining : ((store.insert (.arrival entry)).ids ++ rest.map Prod.snd).Nodup := by
      rw [store.ids_insert_arrival entry new]
      simpa using distinct
    -- Nobody arrives twice, so the later arrivals leave this node alone.
    have once : entry.2 ∉ rest.map Prod.snd := by
      have tail := (List.nodup_append.1 distinct).2.1
      exact (List.nodup_cons.1 tail).1
    obtain ⟨arrived, kept⟩ := ih _ remaining
    rw [List.map_cons, insertAll_cons]
    constructor
    · intro other member
      rcases List.mem_cons.1 member with same | later
      · subst same
        rw [kept other.2 once, insert_arrival store other other.2 new, if_pos rfl]
      · exact arrived other later
    · intro id absent
      rw [List.map_cons, List.mem_cons, not_or] at absent
      rw [kept id absent.2, insert_arrival store entry id new, if_neg absent.1]

theorem edge?_insertAll_arrivals (store : Store) (entries : List (Nat × NodeId))
    (distinct : (store.ids ++ entries.map Prod.snd).Nodup) (source target : NodeId) :
    (store.insertAll (entries.map .arrival)).edge? source target = store.edge? source target := by
  obtain ⟨arrived, kept⟩ := node?_insertAll_arrivals store entries distinct
  rw [edge?_eq, edge?_eq]
  by_cases here : source ∈ entries.map Prod.snd
  · obtain ⟨entry, member, same⟩ := List.mem_map.1 here
    -- Whoever arrives is new, and had no edges either.
    have absent : source ∉ store.ids := by
      intro known
      exact (List.nodup_append.1 distinct).2.2 source known source here rfl
    rw [← same, arrived entry member, same, node?_eq_none.2 absent]
    rfl
  · rw [kept source here]

/-! ## Links -/

def linked (t : Nat) (target : NodeId) (before : Option Edge) : Edge :=
  (before.map (·.record t)).getD (.create t target .none)

theorem accepts_link {store : Store} (valid : store.WellFormed) (entry : Nat × NodeId × NodeId)
    (source : entry.2.1 ∈ store.ids) (target : entry.2.2 ∈ store.ids) :
    store.Accepts (.link entry) :=
  ⟨admits_of_mem valid source, admits_of_mem valid target,
    valid.oneKind entry.2.1 source entry.2.2 target⟩

theorem ids_insert_link (store : Store) (entry : Nat × NodeId × NodeId)
    (source : entry.2.1 ∈ store.ids) (target : entry.2.2 ∈ store.ids) :
    (store.insert (.link entry)).ids = store.ids := by
  simp [ids_insert, Insertion.link, Insertion.mentions, joinIds, source, target]

theorem node?_insert_link (store : Store) (entry : Nat × NodeId × NodeId)
    (source : entry.2.1 ∈ store.ids) (target : entry.2.2 ∈ store.ids) (asked : NodeId) :
    (store.insert (.link entry)).node? asked =
      if asked = entry.2.1 then
        (store.node? entry.2.1).map (·.touchEdge entry.1 entry.2.2 .none)
      else store.node? asked := by
  obtain ⟨first, fromFound⟩ := exists_node? source
  obtain ⟨second, toFound⟩ := exists_node? target
  rw [node?_insert, Insertion.link, node?_place_edge, fromFound, Node.alterEdge_merge_none]
  by_cases here : asked = entry.2.1
  · rw [if_pos here, if_pos here]
    rfl
  · rw [if_neg here, if_neg here]
    by_cases there : asked = entry.2.2
    · rw [if_pos there, there, toFound]
      rfl
    · rw [if_neg there]

theorem edge?_insert_link (store : Store) (entry : Nat × NodeId × NodeId)
    (source : entry.2.1 ∈ store.ids) (target : entry.2.2 ∈ store.ids) (pair : NodeId × NodeId) :
    (store.insert (.link entry)).edge? pair.1 pair.2 =
      if pair = entry.2 then some (linked entry.1 pair.2 (store.edge? pair.1 pair.2))
      else store.edge? pair.1 pair.2 := by
  rw [edge?_eq, edge?_eq, node?_insert_link store entry source target]
  by_cases here : pair.1 = entry.2.1
  · obtain ⟨node, found⟩ := exists_node? source
    rw [if_pos here, here, found, Option.map_some, Option.bind_some, Option.bind_some,
      Node.edgeTo?_touchEdge]
    by_cases there : pair.2 = entry.2.2
    · rw [if_pos there, if_pos (Prod.ext here there), there]
      rfl
    · rw [if_neg there, if_neg fun same => there (congrArg Prod.snd same)]
  · rw [if_neg here, if_neg fun same => here (congrArg Prod.fst same)]

def bareNode? (store : Store) (id : NodeId) : Option Node :=
  (store.node? id).map fun node => { node with edges := [] }

theorem bareNode?_insert_link (store : Store) (entry : Nat × NodeId × NodeId)
    (source : entry.2.1 ∈ store.ids) (target : entry.2.2 ∈ store.ids) (id : NodeId) :
    (store.insert (.link entry)).bareNode? id = store.bareNode? id := by
  rw [bareNode?, node?_insert_link store entry source target]
  by_cases here : id = entry.2.1
  · rw [if_pos here, bareNode?, here, Option.map_map]
    congr 1
    funext node
    simp only [Function.comp_apply, Node.id_touchEdge, Node.history_touchEdge,
      Node.type_touchEdge, Node.properties_touchEdge]
  · rw [if_neg here, bareNode?]

section Links

def Joins (store : Store) (entries : List (Nat × NodeId × NodeId)) : Prop :=
  ∀ entry ∈ entries, entry.2.1 ∈ store.ids ∧ entry.2.2 ∈ store.ids

variable {store : Store} {entries : List (Nat × NodeId × NodeId)}

theorem Joins.tail {entry : Nat × NodeId × NodeId} (joins : store.Joins (entry :: entries)) :
    (store.insert (.link entry)).Joins entries := by
  obtain ⟨source, target⟩ := joins entry List.mem_cons_self
  intro other member
  rw [store.ids_insert_link entry source target]
  exact joins other (List.mem_cons_of_mem entry member)

theorem ids_insertAll_links (joins : store.Joins entries) :
    (store.insertAll (entries.map .link)).ids = store.ids := by
  induction entries generalizing store with
  | nil => rfl
  | cons entry rest ih =>
    obtain ⟨source, target⟩ := joins entry List.mem_cons_self
    rw [List.map_cons, insertAll_cons, ih joins.tail, store.ids_insert_link entry source target]

theorem bareNode?_insertAll_links (joins : store.Joins entries) (id : NodeId) :
    (store.insertAll (entries.map .link)).bareNode? id = store.bareNode? id := by
  induction entries generalizing store with
  | nil => rfl
  | cons entry rest ih =>
    obtain ⟨source, target⟩ := joins entry List.mem_cons_self
    rw [List.map_cons, insertAll_cons, ih joins.tail,
      store.bareNode?_insert_link entry source target]

/-- An edge after links of different pairs is the edge before with the time of its link, or what it
was. -/
theorem edge?_insertAll_links (joins : store.Joins entries)
    (distinct : (entries.map Prod.snd).Nodup) :
    (∀ entry ∈ entries, (store.insertAll (entries.map .link)).edge? entry.2.1 entry.2.2 =
        some (linked entry.1 entry.2.2 (store.edge? entry.2.1 entry.2.2))) ∧
      ∀ pair, pair ∉ entries.map Prod.snd →
        (store.insertAll (entries.map .link)).edge? pair.1 pair.2 =
          store.edge? pair.1 pair.2 := by
  induction entries generalizing store with
  | nil => exact ⟨fun entry member => (by cases member), fun pair _ => rfl⟩
  | cons entry rest ih =>
    obtain ⟨source, target⟩ := joins entry List.mem_cons_self
    obtain ⟨once, tail⟩ := List.nodup_cons.1 distinct
    obtain ⟨hit, kept⟩ := ih joins.tail tail
    rw [List.map_cons, insertAll_cons]
    constructor
    · intro other member
      rcases List.mem_cons.1 member with same | later
      · subst same
        rw [kept other.2 once, store.edge?_insert_link other source target, if_pos rfl]
      · have differs : other.2 ≠ entry.2 := by
          intro same
          exact once (same ▸ List.mem_map_of_mem later)
        rw [hit other later, store.edge?_insert_link entry source target, if_neg differs]
    · intro pair absent
      rw [List.map_cons, List.mem_cons, not_or] at absent
      rw [kept pair absent.2, store.edge?_insert_link entry source target, if_neg absent.1]

/-- Links only add targets, behind those that a source has. -/
theorem targets_insertAll_links (joins : store.Joins entries) {source : NodeId} {node : Node}
    (found : store.node? source = some node) :
    ∃ now, (store.insertAll (entries.map .link)).node? source = some now ∧
      node.targets <+: now.targets := by
  induction entries generalizing store node with
  | nil => exact ⟨node, found, List.prefix_rfl⟩
  | cons entry rest ih =>
    obtain ⟨first, second⟩ := joins entry List.mem_cons_self
    have step : ∃ next, (store.insert (.link entry)).node? source = some next ∧
        node.targets <+: next.targets := by
      rw [node?_insert_link store entry first second]
      by_cases here : source = entry.2.1
      · subst here
        refine ⟨node.touchEdge entry.1 entry.2.2 .none, by rw [if_pos rfl, found]; rfl, ?_⟩
        rw [Node.targets_touchEdge]
        split
        · exact List.prefix_rfl
        · exact List.prefix_append _ _
      · exact ⟨node, by rw [if_neg here, found], List.prefix_rfl⟩
    obtain ⟨next, linked, extended⟩ := step
    obtain ⟨now, final, further⟩ := ih joins.tail linked
    exact ⟨now, final, extended.trans further⟩

end Links

end Store

end TemporalNetwork
