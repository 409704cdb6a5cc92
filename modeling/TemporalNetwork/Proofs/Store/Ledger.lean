import Mathlib.Data.List.Induction
import TemporalNetwork.Proofs.Store.Insertion

/-!
The ledger of a graph: the insertions that were made, in their order. Every part of the graph is
read off the ledger without a store, as sums over the ledger's lines. Main statement: a store that
inserts line after line is at every moment what its ledger reads.
-/

namespace TemporalNetwork

abbrev Ledger := List Insertion

namespace Ledger

/-- One update of a node or of an edge. -/
structure Line where
  time : Nat
  type : Value
  properties : Value

/-! ## Readings -/

def ids (ledger : Ledger) : List NodeId := (ledger.flatMap Insertion.mentions).eraseDups

def nodeLine? (id : NodeId) : Insertion → Option Line
  | .node time known type properties =>
    if known = id then some { time, type, properties } else none
  | .edge .. => none

def edgeLine? (source target : NodeId) : Insertion → Option Line
  | .node .. => none
  | .edge time first second type properties =>
    if first = source ∧ second = target then some { time, type, properties } else none

def targetFrom? (source : NodeId) : Insertion → Option NodeId
  | .node .. => none
  | .edge _ first second _ _ => if first = source then some second else none

def nodeLines (ledger : Ledger) (id : NodeId) : List Line := ledger.filterMap (nodeLine? id)

def edgeLines (ledger : Ledger) (source target : NodeId) : List Line :=
  ledger.filterMap (edgeLine? source target)

/-- The time of the edge that first mentioned a node, if it was an edge that did. -/
def bornWith? (ledger : Ledger) (id : NodeId) : Option Nat :=
  match ledger.find? (id ∈ ·.mentions) with
  | some (.edge t ..) => some t
  | _ => none

def nodeTimes (ledger : Ledger) (id : NodeId) : List Nat :=
  (ledger.bornWith? id).toList ++ (ledger.nodeLines id).map (·.time)

def edgeTimes (ledger : Ledger) (source target : NodeId) : List Nat :=
  (ledger.edgeLines source target).map (·.time)

def targets (ledger : Ledger) (source : NodeId) : List NodeId :=
  (ledger.filterMap (targetFrom? source)).eraseDups

def lastType (lines : List Line) : Value :=
  ((lines.map (·.type)).filter fun type => type.kind ≠ .none).getLast?.getD .none

def mergeAll (lines : List Line) : Properties :=
  lines.foldl (fun known line => (known.merge line.properties).1) []

/-- A node keeps the last type it was given. -/
def nodeType (ledger : Ledger) (id : NodeId) : Value := lastType (ledger.nodeLines id)

/-- An edge keeps the type of its first insertion, none included. -/
def edgeType (ledger : Ledger) (source target : NodeId) : Value :=
  ((ledger.edgeLines source target).head?.map (·.type)).getD .none

def earliest (ledger : Ledger) : Option Nat := (ledger.map Insertion.time).min?

def latest (ledger : Ledger) : Option Nat := (ledger.map Insertion.time).max?

end Ledger

def History.ofTimes (times : List Nat) : History :=
  { first := times.headD 0, later := times.tail }

theorem History.times_ofTimes {times : List Nat} (some : times ≠ []) :
    (ofTimes times).times = times := by
  cases times with
  | nil => exact absurd rfl some
  | cons first later => rfl

theorem History.record_ofTimes {times : List Nat} (some : times ≠ []) (t : Nat) :
    (ofTimes times).record t = ofTimes (times ++ [t]) := by
  cases times with
  | nil => exact absurd rfl some
  | cons first later => rfl

theorem History.times_ne_nil (history : History) : history.times ≠ [] := List.cons_ne_nil _ _

theorem History.ofTimes_times (history : History) : ofTimes history.times = history := rfl

namespace Ledger

def edge (ledger : Ledger) (source target : NodeId) : Edge where
  target := target
  history := .ofTimes (ledger.edgeTimes source target)
  type := ledger.edgeType source target
  properties := mergeAll (ledger.edgeLines source target)

def node (ledger : Ledger) (id : NodeId) : Node where
  id := id
  history := .ofTimes (ledger.nodeTimes id)
  type := ledger.nodeType id
  properties := mergeAll (ledger.nodeLines id)
  edges := (ledger.targets id).map (ledger.edge id)

def node? (ledger : Ledger) (id : NodeId) : Option Node :=
  if id ∈ ledger.ids then some (ledger.node id) else none

/-! ## One more line -/

variable (ledger : Ledger)

theorem eraseDups_concat (known : List NodeId) (id : NodeId) :
    (known ++ [id]).eraseDups =
      if id ∈ known.eraseDups then known.eraseDups else known.eraseDups ++ [id] := by
  rw [List.eraseDups_append]
  by_cases old : id ∈ known
  · simp [old, List.removeAll, List.mem_eraseDups]
  · simp [old, List.removeAll, List.mem_eraseDups, List.eraseDups_cons]

theorem joinIds_eraseDups (known new : List NodeId) :
    Store.joinIds known.eraseDups new = (known ++ new).eraseDups := by
  induction new generalizing known with
  | nil => simp [Store.joinIds]
  | cons id rest ih =>
    rw [Store.joinIds, ← eraseDups_concat, ih, List.append_assoc]
    rfl

-- Groups that stand under distinct keys are left with one key each.
theorem eraseDups_groups {α : Type} (key : α → NodeId) {copies : α → List NodeId}
    {groups : List α} (filled : ∀ group ∈ groups, copies group ≠ [])
    (alike : ∀ group ∈ groups, ∀ id ∈ copies group, id = key group)
    (distinct : (groups.map key).Nodup) :
    (groups.flatMap copies).eraseDups = groups.map key := by
  have joined := joinIds_eraseDups [] (groups.flatMap copies)
  rw [List.nil_append] at joined
  rw [← joined]
  exact Store.joinIds_groups key filled alike distinct

theorem nodup_ids : ledger.ids.Nodup := by
  have joined := joinIds_eraseDups [] (ledger.flatMap Insertion.mentions)
  rw [List.nil_append] at joined
  rw [ids, ← joined]
  exact Store.nodup_joinIds List.nodup_nil _

theorem ids_concat (line : Insertion) :
    ids (ledger ++ [line]) = Store.joinIds ledger.ids line.mentions := by
  rw [ids, ids, joinIds_eraseDups, List.flatMap_append, List.flatMap_singleton]

theorem mem_ids {id : NodeId} : id ∈ ledger.ids ↔ ∃ line ∈ ledger, id ∈ line.mentions := by
  simp [ids, List.mem_eraseDups]

theorem mem_ids_concat {line : Insertion} {id : NodeId} :
    id ∈ ids (ledger ++ [line]) ↔ id ∈ ledger.ids ∨ id ∈ line.mentions := by
  simp [ids, List.mem_eraseDups]

theorem nodeLines_concat (line : Insertion) (id : NodeId) :
    nodeLines (ledger ++ [line]) id = ledger.nodeLines id ++ (nodeLine? id line).toList := by
  simp only [nodeLines, List.filterMap_append]
  cases found : nodeLine? id line <;> simp [found]

theorem edgeLines_concat (line : Insertion) (source target : NodeId) :
    edgeLines (ledger ++ [line]) source target =
      ledger.edgeLines source target ++ (edgeLine? source target line).toList := by
  simp only [edgeLines, List.filterMap_append]
  cases found : edgeLine? source target line <;> simp [found]

theorem targets_concat (line : Insertion) (source : NodeId) :
    targets (ledger ++ [line]) source =
      Store.joinIds (ledger.targets source) (targetFrom? source line).toList := by
  rw [targets, targets, joinIds_eraseDups, List.filterMap_append]
  cases found : targetFrom? source line <;> simp [found]

theorem bornWith?_concat_of_mem {id : NodeId} (known : id ∈ ledger.ids) (line : Insertion) :
    bornWith? (ledger ++ [line]) id = ledger.bornWith? id := by
  obtain ⟨earlier, member, mentioned⟩ := ledger.mem_ids.1 known
  rw [bornWith?, bornWith?, List.find?_append]
  cases found : ledger.find? (id ∈ ·.mentions) with
  | some first => rfl
  | none =>
    have absent := List.find?_eq_none.1 found earlier member
    exact absurd (by simpa using mentioned) absent

theorem bornWith?_concat_of_not_mem {id : NodeId} (new : id ∉ ledger.ids) (line : Insertion) :
    bornWith? (ledger ++ [line]) id = bornWith? [line] id := by
  have unmentioned : ledger.find? (id ∈ ·.mentions) = none := by
    rw [List.find?_eq_none]
    intro earlier member mentioned
    exact new (ledger.mem_ids.2 ⟨earlier, member, by simpa using mentioned⟩)
  simp only [bornWith?, List.find?_append, unmentioned, Option.none_or]

theorem nodeLines_of_not_mem {id : NodeId} (new : id ∉ ledger.ids) : ledger.nodeLines id = [] := by
  rw [nodeLines, List.filterMap_eq_nil_iff]
  intro line member
  cases line with
  | edge => rfl
  | node t known type properties =>
    have other : known ≠ id := by
      intro same
      exact new (ledger.mem_ids.2 ⟨_, member, by simp [Insertion.mentions, same]⟩)
    simp [nodeLine?, other]

theorem targetFrom?_eq_some {source target : NodeId} {line : Insertion} :
    targetFrom? source line = some target ↔ (edgeLine? source target line).isSome := by
  cases line with
  | node => simp [targetFrom?, edgeLine?]
  | edge t first second type properties =>
    by_cases same : first = source <;> by_cases wanted : second = target <;>
      simp [targetFrom?, edgeLine?, same, wanted]

theorem mem_targets {source target : NodeId} :
    target ∈ ledger.targets source ↔ ledger.edgeLines source target ≠ [] := by
  simp only [targets, List.mem_eraseDups, List.mem_filterMap, targetFrom?_eq_some]
  constructor
  · rintro ⟨line, member, read⟩
    obtain ⟨found, same⟩ := Option.isSome_iff_exists.1 read
    exact List.ne_nil_of_mem (List.mem_filterMap.2 ⟨line, member, same⟩)
  · intro some
    obtain ⟨found, member⟩ := List.exists_mem_of_ne_nil _ some
    obtain ⟨line, inside, read⟩ := List.mem_filterMap.1 member
    exact ⟨line, inside, by simp [read]⟩

theorem source_mem_ids {source target : NodeId} (linked : target ∈ ledger.targets source) :
    source ∈ ledger.ids := by
  simp only [targets, List.mem_eraseDups, List.mem_filterMap] at linked
  obtain ⟨line, member, found⟩ := linked
  cases line with
  | node => cases found
  | edge t first second type properties =>
    simp only [targetFrom?, Option.ite_none_right_eq_some] at found
    exact ledger.mem_ids.2 ⟨_, member, by simp [Insertion.mentions, found.1]⟩

-- Whoever was mentioned has a time.
theorem nodeTimes_ne_nil {id : NodeId} (known : id ∈ ledger.ids) : ledger.nodeTimes id ≠ [] := by
  induction ledger using List.reverseRecOn with
  | nil => simp [ids] at known
  | append_singleton earlier line ih =>
    by_cases old : id ∈ ids earlier
    · have some := ih old
      rw [nodeTimes, bornWith?_concat_of_mem earlier old, nodeLines_concat, List.map_append,
        ← List.append_assoc]
      intro empty
      exact some (List.append_eq_nil_iff.1 empty).1
    · have mentioned := (mem_ids_concat earlier).1 known |>.resolve_left old
      rw [nodeTimes, bornWith?_concat_of_not_mem earlier old, nodeLines_concat]
      cases line with
      | node t first type properties =>
        have same : first = id := by simpa [Insertion.mentions, eq_comm] using mentioned
        simp [nodeLine?, same]
      | edge t first second type properties =>
        simp [bornWith?, mentioned]

end Ledger

end TemporalNetwork
