import TemporalNetwork.Proofs.Store.Lookup
import TemporalNetwork.Store.Update

/-!
Insertions: updates whose time and ids have been checked. A call either is refused and changes
nothing, or asks for exactly one insertion, which the store places; only then can its properties
still fail.
-/

namespace TemporalNetwork

inductive Insertion where
  | node (t : Nat) (id : NodeId) (type properties : Value)
  | edge (t : Nat) (source target : NodeId) (type properties : Value)

inductive Call where
  | node (update : NodeUpdate)
  | edge (update : EdgeUpdate)

namespace Insertion

def time : Insertion → Nat
  | .node t .. | .edge t .. => t

def mentions : Insertion → List NodeId
  | .node _ id _ _ => [id]
  | .edge _ source target _ _ => [source, target]

def call : Insertion → Call
  | .node t id type properties => .node { time := .int t, id := id.toValue, properties, type }
  | .edge t source target type properties =>
    .edge { time := .int t, source := source.toValue, target := target.toValue, properties, type }

end Insertion

/-- Properties that can always be merged: none, or a dict. -/
def Value.IsPlain (argument : Value) : Prop :=
  argument = .none ∨ ∃ entries, argument = .dict entries

/-- Properties that merge without a fault into any others: whatever is falsy, or a dict. -/
def Value.Merges (argument : Value) : Prop :=
  argument.isFalsy = true ∨ ∃ entries, argument = .dict entries

theorem Value.IsPlain.merges {argument : Value} (plain : argument.IsPlain) : argument.Merges := by
  rcases plain with nothing | dict
  · subst nothing
    exact .inl rfl
  · exact .inr dict

namespace Call

def time : Call → Value
  | .node update => update.time
  | .edge update => update.time

def properties : Call → Value
  | .node update => update.properties
  | .edge update => update.properties

end Call

theorem Insertion.time_call (insertion : Insertion) :
    insertion.call.time = .int insertion.time := by
  cases insertion <;> rfl

theorem Insertion.call_injective {insertion other : Insertion} (same : insertion.call = other.call) :
    insertion = other := by
  cases insertion <;> cases other <;> simp only [call, Call.node.injEq, Call.edge.injEq,
    NodeUpdate.mk.injEq, EdgeUpdate.mk.injEq, Value.int.injEq, reduceCtorEq] at same
  · obtain ⟨time, name, properties, type⟩ := same
    rw [Int.ofNat_inj.1 time, NodeId.toValue_injective name, properties, type]
  · obtain ⟨time, source, target, properties, type⟩ := same
    rw [Int.ofNat_inj.1 time, NodeId.toValue_injective source, NodeId.toValue_injective target,
      properties, type]

theorem Properties.merge_fault {argument : Value} (merges : argument.Merges)
    (properties : Properties) : (properties.merge argument).2 = none := by
  rcases merges with falsy | ⟨entries, dict⟩
  · rw [merge_of_isFalsy properties falsy]
  · subst dict
    exact merge_dict_fault properties entries

namespace Store

def perform (store : Store) : Call → Store × Option UpdateFault
  | .node update => store.addNode update
  | .edge update => store.addEdge update

/-- An id is of the kind that the graph uses, if it uses one already. -/
def Admits (store : Store) (id : NodeId) : Prop := ∀ kind, store.kind? = some kind → id.kind = kind

def Accepts (store : Store) : Insertion → Prop
  | .node _ id _ _ => store.Admits id
  | .edge _ source target _ _ =>
    store.Admits source ∧ store.Admits target ∧ source.kind = target.kind

/-- Records an insertion and merges its properties. The clock stands still. -/
def place (store : Store) : Insertion → Store × Option Properties.Fault
  | .node t id type properties => (store.touchNode t id type).mergeNode id properties
  | .edge t source target type properties =>
    (((store.ensureNode t source).ensureNode t target).touchEdge t source target type).mergeEdge
      source target properties

def insert (store : Store) (insertion : Insertion) : Store :=
  (store.place insertion).1.advance insertion.time

/-! ## Checks -/

theorem checkTime_eq_ok {time : Value} {t : Nat} : checkTime time = .ok t ↔ time = .int t := by
  constructor
  · intro checked
    cases time with
    | int n =>
      simp only [checkTime] at checked
      split at checked
      · cases checked
      · next nonnegative =>
        cases checked
        rw [Int.toNat_of_nonneg (Int.not_lt.1 nonnegative)]
    | _ => cases checked
  · intro same
    subst same
    have nonnegative : ¬(t : Int) < 0 := by omega
    simp [checkTime, nonnegative]

theorem checkKind_eq_ok {store : Store} {id checked : NodeId} :
    store.checkKind id = .ok checked ↔ checked = id ∧ store.Admits id := by
  simp only [checkKind, Admits]
  cases store.kind? with
  | none => simp [eq_comm]
  | some expected =>
    by_cases fits : id.kind = expected
    · simp [fits, eq_comm]
    · simp [fits]

theorem checkId_eq_ok {store : Store} {value : Value} {id : NodeId} :
    store.checkId value = .ok id ↔ value = id.toValue ∧ store.Admits id := by
  constructor
  · intro checked
    cases value with
    | int n =>
      obtain ⟨same, admitted⟩ := checkKind_eq_ok.1 checked
      subst same
      exact ⟨rfl, admitted⟩
    | text s =>
      obtain ⟨same, admitted⟩ := checkKind_eq_ok.1 checked
      subst same
      exact ⟨rfl, admitted⟩
    | _ => cases checked
  · rintro ⟨same, admitted⟩
    subst same
    cases id <;> exact checkKind_eq_ok.2 ⟨rfl, admitted⟩

theorem checkNode_eq_ok {store : Store} {update : NodeUpdate} {t : Nat} {id : NodeId} :
    store.checkNode update = .ok (t, id) ↔
      update.time = .int t ∧ update.id = id.toValue ∧ store.Admits id := by
  rw [← checkTime_eq_ok, ← checkId_eq_ok, checkNode]
  cases checkTime update.time with
  | error refusal => simp
  | ok known => cases store.checkId update.id <;> simp

theorem checkEdge_eq_ok {store : Store} {update : EdgeUpdate} {t : Nat} {source target : NodeId} :
    store.checkEdge update = .ok (t, source, target) ↔
      update.time = .int t ∧ (update.source = source.toValue ∧ store.Admits source) ∧
        (update.target = target.toValue ∧ store.Admits target) ∧ source.kind = target.kind := by
  rw [← checkTime_eq_ok, ← checkId_eq_ok, ← checkId_eq_ok, checkEdge]
  cases checkTime update.time with
  | error refusal => simp
  | ok known =>
    cases store.checkId update.source with
    | error refusal => simp
    | ok first =>
      cases store.checkId update.target with
      | error refusal => simp
      | ok second =>
        by_cases alike : first.kind = second.kind
        · simp only [alike, ↓reduceIte, Except.ok.injEq, Prod.mk.injEq]
          constructor
          · rintro ⟨rfl, rfl, rfl⟩
            exact ⟨rfl, rfl, rfl, alike⟩
          · rintro ⟨rfl, rfl, rfl, _⟩
            exact ⟨rfl, rfl, rfl⟩
        · simp only [alike, ↓reduceIte, reduceCtorEq, Except.ok.injEq, false_iff]
          rintro ⟨rfl, rfl, rfl, same⟩
          exact alike same

/-! ## What a call can do -/

-- Arguments that pass the checks are those of an insertion.
theorem accepts_of_checkNode {store : Store} {update : NodeUpdate} {t : Nat} {id : NodeId}
    (checked : store.checkNode update = .ok (t, id)) :
    let insertion := Insertion.node t id update.type update.properties
    Call.node update = insertion.call ∧ store.Accepts insertion := by
  obtain ⟨time, name, admitted⟩ := checkNode_eq_ok.1 checked
  exact ⟨by rw [Insertion.call, ← time, ← name], admitted⟩

theorem accepts_of_checkEdge {store : Store} {update : EdgeUpdate} {t : Nat}
    {source target : NodeId} (checked : store.checkEdge update = .ok (t, source, target)) :
    let insertion := Insertion.edge t source target update.type update.properties
    Call.edge update = insertion.call ∧ store.Accepts insertion := by
  obtain ⟨time, ⟨first, fromAdmitted⟩, ⟨second, toAdmitted⟩, alike⟩ := checkEdge_eq_ok.1 checked
  exact ⟨by rw [Insertion.call, ← time, ← first, ← second], fromAdmitted, toAdmitted, alike⟩

theorem perform_call {store : Store} {insertion : Insertion} (accepted : store.Accepts insertion) :
    store.perform insertion.call = conclude insertion.time (store.place insertion) := by
  cases insertion with
  | node t id type properties =>
    have checked := checkNode_eq_ok.2
      (show (NodeUpdate.mk (.int t) id.toValue properties type).time = .int t ∧ _ ∧ _ from
        ⟨rfl, rfl, accepted⟩)
    simp only [Insertion.call, perform, addNode, checked]
    rfl
  | edge t source target type properties =>
    obtain ⟨fromAdmitted, toAdmitted, alike⟩ := accepted
    have checked := checkEdge_eq_ok.2
      (show (EdgeUpdate.mk (.int t) source.toValue target.toValue properties type).time = .int t ∧
          _ ∧ _ ∧ _ from
        ⟨rfl, ⟨rfl, fromAdmitted⟩, ⟨rfl, toAdmitted⟩, alike⟩)
    simp only [Insertion.call, perform, addEdge, checked]
    rfl

/-- A call is refused and changes nothing, or is an insertion that the store accepts and places. -/
theorem perform_cases (store : Store) (call : Call) :
    (∃ refusal : Refusal, store.perform call = (store, some refusal.fault)) ∨
      ∃ insertion : Insertion, call = insertion.call ∧ store.Accepts insertion ∧
        store.perform call = conclude insertion.time (store.place insertion) := by
  cases call with
  | node update =>
    cases checked : store.checkNode update with
    | error refusal => exact .inl ⟨refusal, by simp [perform, addNode, checked]⟩
    | ok found =>
      obtain ⟨same, accepted⟩ := accepts_of_checkNode checked
      exact .inr ⟨_, same, accepted, same ▸ perform_call accepted⟩
  | edge update =>
    cases checked : store.checkEdge update with
    | error refusal => exact .inl ⟨refusal, by simp [perform, addEdge, checked]⟩
    | ok found =>
      obtain ⟨same, accepted⟩ := accepts_of_checkEdge checked
      exact .inr ⟨_, same, accepted, same ▸ perform_call accepted⟩

theorem place_fault {insertion : Insertion} (merges : insertion.call.properties.Merges)
    (store : Store) : (store.place insertion).2 = none := by
  cases insertion with
  | node t id type properties =>
    simp only [place, mergeNode, Option.bind_eq_none_iff]
    intro node _
    exact Properties.merge_fault merges node.properties
  | edge t source target type properties =>
    simp only [place, mergeEdge, Option.bind_eq_none_iff]
    intro edge _
    exact Properties.merge_fault merges edge.properties

-- An accepted call whose properties merge is the insertion it asks for.
theorem perform_merges {store : Store} {insertion : Insertion} (accepted : store.Accepts insertion)
    (merges : insertion.call.properties.Merges) :
    store.perform insertion.call = (store.insert insertion, none) := by
  have whole := place_fault merges store
  rw [perform_call accepted, insert]
  cases placed : store.place insertion with
  | mk after fault =>
    rw [placed] at whole
    subst whole
    rfl

-- What asks for an insertion whose properties merge does it, or nothing.
theorem perform_call_cases (store : Store) (insertion : Insertion)
    (merges : insertion.call.properties.Merges) :
    (∃ fault, store.perform insertion.call = (store, some fault)) ∨
      store.perform insertion.call = (store.insert insertion, none) := by
  rcases store.perform_cases insertion.call with ⟨refusal, refused⟩ | ⟨other, same, accepted, _⟩
  · exact .inl ⟨refusal.fault, refused⟩
  · rw [← Insertion.call_injective same] at accepted
    exact .inr (perform_merges accepted merges)

theorem perform_plain {store : Store} {insertion : Insertion} (accepted : store.Accepts insertion)
    (plain : insertion.call.properties.IsPlain) :
    store.perform insertion.call = (store.insert insertion, none) :=
  perform_merges accepted plain.merges

/-! ## The views after an insertion -/

variable (store : Store)

def joinIds (known : List NodeId) : List NodeId → List NodeId
  | [] => known
  | id :: rest => joinIds (if id ∈ known then known else known ++ [id]) rest

theorem mem_joinIds {known new : List NodeId} {id : NodeId} :
    id ∈ joinIds known new ↔ id ∈ known ∨ id ∈ new := by
  induction new generalizing known with
  | nil => simp [joinIds]
  | cons first rest ih =>
    rw [joinIds, ih, List.mem_cons]
    by_cases old : first ∈ known
    · rw [if_pos old]
      constructor
      · rintro (inside | later)
        · exact .inl inside
        · exact .inr (.inr later)
      · rintro (inside | same | later)
        · exact .inl inside
        · exact .inl (same ▸ old)
        · exact .inr later
    · simp [old, or_assoc]

theorem nodup_joinIds {known : List NodeId} (distinct : known.Nodup) (new : List NodeId) :
    (joinIds known new).Nodup := by
  induction new generalizing known with
  | nil => exact distinct
  | cons first rest ih =>
    apply ih
    by_cases old : first ∈ known
    · rwa [if_pos old]
    · rw [if_neg old, List.nodup_append]
      refine ⟨distinct, by simp, ?_⟩
      intro earlier member later last same
      rw [List.mem_singleton.1 last] at same
      exact old (same ▸ member)

theorem joinIds_append (known first second : List NodeId) :
    joinIds known (first ++ second) = joinIds (joinIds known first) second := by
  induction first generalizing known with
  | nil => rfl
  | cons id rest ih => exact ih _

theorem joinIds_of_subset {known new : List NodeId} (inside : ∀ id ∈ new, id ∈ known) :
    joinIds known new = known := by
  induction new with
  | nil => rfl
  | cons id rest ih =>
    rw [joinIds, if_pos (inside id List.mem_cons_self)]
    exact ih fun other member => inside other (List.mem_cons_of_mem id member)

-- Each group brings in its id once, however long it is.
theorem joinIds_groups {α : Type} (key : α → NodeId) {copies : α → List NodeId}
    {known : List NodeId} {groups : List α} (filled : ∀ group ∈ groups, copies group ≠ [])
    (alike : ∀ group ∈ groups, ∀ id ∈ copies group, id = key group)
    (distinct : (known ++ groups.map key).Nodup) :
    joinIds known (groups.flatMap copies) = known ++ groups.map key := by
  induction groups generalizing known with
  | nil => simp [joinIds]
  | cons group rest ih =>
    have new : key group ∉ known := by
      intro old
      exact (List.nodup_append.1 distinct).2.2 _ old _ List.mem_cons_self rfl
    have own : joinIds known (copies group) = known ++ [key group] := by
      have same := alike group List.mem_cons_self
      cases given : copies group with
      | nil => exact absurd given (filled group List.mem_cons_self)
      | cons id more =>
        rw [given] at same
        have inside : ∀ other ∈ more, other ∈ known ++ [key group] := by
          intro other member
          rw [same other (List.mem_cons_of_mem id member)]
          exact List.mem_append_right known List.mem_cons_self
        rw [joinIds, same id List.mem_cons_self, if_neg new, joinIds_of_subset inside]
    rw [List.flatMap_cons, joinIds_append, own,
      ih (fun other member => filled other (List.mem_cons_of_mem group member))
        (fun other member => alike other (List.mem_cons_of_mem group member))
        (by simpa using distinct)]
    simp

theorem ids_place (insertion : Insertion) :
    (store.place insertion).1.ids = joinIds store.ids insertion.mentions := by
  cases insertion with
  | node t id type properties =>
    simp [place, Insertion.mentions, joinIds, ids_mergeNode, ids_touchNode]
  | edge t source target type properties =>
    simp [place, Insertion.mentions, joinIds, ids_mergeEdge, ids_touchEdge, ids_ensureNode]

theorem ids_insert (insertion : Insertion) :
    (store.insert insertion).ids = joinIds store.ids insertion.mentions :=
  store.ids_place insertion

theorem ids_insert_node (t : Nat) {id : NodeId} (new : id ∉ store.ids) (type properties : Value) :
    (store.insert (.node t id type properties)).ids = store.ids ++ [id] := by
  simp [ids_insert, Insertion.mentions, joinIds, new]

theorem node?_place_node (t : Nat) (id asked : NodeId) (type properties : Value) :
    (store.place (.node t id type properties)).1.node? asked =
      if asked = id then
        some ((((store.node? id).map (Node.record · t type)).getD (Node.create t id type)).merge
          properties)
      else store.node? asked := by
  simp only [place, node?_mergeNode, node?_touchNode, ↓reduceIte, Option.map_some]
  split <;> rfl

-- The node under an id after the insertion of an edge: the source is created if it is missing and
-- takes the edge, the target is created if it is missing.
theorem node?_place_edge (t : Nat) (source target asked : NodeId) (type properties : Value) :
    (store.place (.edge t source target type properties)).1.node? asked =
      if asked = source then
        some ((((store.node? source).getD (Node.create t source .none)).touchEdge t target
          type).alterEdge target (·.merge properties))
      else if asked = target then some ((store.node? target).getD (.create t target .none))
      else store.node? asked := by
  simp only [place, node?_mergeEdge, node?_touchEdge, node?_ensureNode]
  by_cases first : asked = source
  · subst first
    by_cases loop : asked = target
    · subst loop
      simp
    · simp [loop]
  · simp [first]
    by_cases second : asked = target
    · subst second
      simp [first]
    · simp [second]

theorem kindSettled_place {store : Store} (settled : store.KindSettled) (insertion : Insertion) :
    (store.place insertion).1.KindSettled := by
  cases insertion with
  | node t id type properties =>
    exact kindSettled_alterNode (kindSettled_touchNode settled) fun node => node.id_merge properties
  | edge t source target type properties =>
    have ends : ((store.ensureNode t source).ensureNode t target).KindSettled :=
      kindSettled_ensureNode (kindSettled_ensureNode settled)
    have touched : (((store.ensureNode t source).ensureNode t target).touchEdge t source target
        type).KindSettled :=
      kindSettled_alterNode ends fun node => node.id_touchEdge t target type
    exact kindSettled_alterNode touched fun node => node.id_alterEdge target _

@[simp] theorem node?_insert (insertion : Insertion) (asked : NodeId) :
    (store.insert insertion).node? asked = (store.place insertion).1.node? asked := rfl

@[simp] theorem earliest_place (insertion : Insertion) :
    (store.place insertion).1.earliest = store.earliest := by
  cases insertion <;> simp [place, mergeNode, mergeEdge, touchEdge]

@[simp] theorem latest_place (insertion : Insertion) :
    (store.place insertion).1.latest = store.latest := by
  cases insertion <;> simp [place, mergeNode, mergeEdge, touchEdge]

end Store

end TemporalNetwork
