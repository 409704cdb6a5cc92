import TemporalNetwork.Proofs.GraphFile.Grouped
import TemporalNetwork.Proofs.GraphFile.Records

/-!
The replay of a document. The entries of a graph's document ask for its updates in the order of the
file. All ids in them are of one kind and none of them carries properties, so none is refused.
-/

namespace TemporalNetwork

namespace Store

variable {store : Store} {kind : NodeId.Kind}

theorem accepts_of_kind (valid : store.WellFormed) (alike : ∀ id ∈ store.ids, id.kind = kind)
    {line : Insertion} (mentioned : ∀ id ∈ line.mentions, id.kind = kind) : store.Accepts line := by
  have admitted : ∀ id ∈ line.mentions, store.Admits id := by
    intro id member
    rw [admits_iff valid]
    intro known inside
    rw [mentioned id member, alike known inside]
  cases line with
  | node t id type properties => exact admitted id List.mem_cons_self
  | edge t source target type properties =>
    have first : source ∈ (Insertion.edge t source target type properties).mentions :=
      List.mem_cons_self
    have second : target ∈ (Insertion.edge t source target type properties).mentions :=
      List.mem_cons_of_mem _ List.mem_cons_self
    refine ⟨admitted source first, admitted target second, ?_⟩
    rw [mentioned source first, mentioned target second]

-- A line about ids of the graph's kind leaves a graph that is well formed and of that kind.
theorem insert_alike (valid : store.WellFormed) (alike : ∀ id ∈ store.ids, id.kind = kind)
    {line : Insertion} (mentioned : ∀ id ∈ line.mentions, id.kind = kind) :
    (store.insert line).WellFormed ∧ ∀ id ∈ (store.insert line).ids, id.kind = kind := by
  constructor
  · exact wellFormed_insert valid (accepts_of_kind valid alike mentioned)
  · intro id member
    rw [ids_insert, mem_joinIds] at member
    rcases member with known | new
    · exact alike id known
    · exact mentioned id new

theorem insertAll_alike (valid : store.WellFormed) (alike : ∀ id ∈ store.ids, id.kind = kind)
    {lines : Ledger} (mentioned : ∀ line ∈ lines, ∀ id ∈ line.mentions, id.kind = kind) :
    (store.insertAll lines).WellFormed ∧ ∀ id ∈ (store.insertAll lines).ids, id.kind = kind := by
  induction lines generalizing store with
  | nil => exact ⟨valid, alike⟩
  | cons line rest ih =>
    obtain ⟨inserted, still⟩ := insert_alike valid alike (mentioned line List.mem_cons_self)
    exact ih inserted still fun other member => mentioned other (List.mem_cons_of_mem line member)

end Store

namespace GraphFile

variable {kind : NodeId.Kind}

theorem perform_entry {store : Store} (valid : store.WellFormed)
    (alike : ∀ id ∈ store.ids, id.kind = kind) {line : Insertion} {call : Call}
    (same : call = line.call) (plain : call.properties = .none)
    (mentioned : ∀ id ∈ line.mentions, id.kind = kind) :
    store.perform call = (store.insert line, none) := by
  have accepted := Store.accepts_of_kind valid alike mentioned
  rw [same] at plain ⊢
  exact Store.perform_plain accepted (.inl plain)

/-- Entries that ask for the lines of a ledger, all ids being of one kind, are replayed as these
lines. -/
theorem replayNodes_eq {store : Store} (valid : store.WellFormed)
    (alike : ∀ id ∈ store.ids, id.kind = kind) {entries : List NodeEntry} {lines : Ledger}
    (same : entries.map (fun entry => Call.node entry.update) = lines.map Insertion.call)
    (mentioned : ∀ line ∈ lines, ∀ id ∈ line.mentions, id.kind = kind) :
    replayNodes store entries = .ok (store.insertAll lines) := by
  induction lines generalizing store entries with
  | nil =>
    rw [List.map_nil, List.map_eq_nil_iff] at same
    rw [same]
    rfl
  | cons line rest ih =>
    obtain ⟨entry, later, rfl, first, others⟩ := List.map_eq_cons_iff.1 same
    have own := mentioned line List.mem_cons_self
    have added : store.addNode entry.update = (store.insert line, none) :=
      perform_entry valid alike first rfl own
    obtain ⟨inserted, still⟩ := Store.insert_alike valid alike own
    rw [replayNodes, added]
    exact ih inserted still others fun other member =>
      mentioned other (List.mem_cons_of_mem line member)

theorem replayEdges_eq {store : Store} (valid : store.WellFormed)
    (alike : ∀ id ∈ store.ids, id.kind = kind) {entries : List EdgeEntry} {lines : Ledger}
    (same : entries.map (fun entry => Call.edge entry.update) = lines.map Insertion.call)
    (mentioned : ∀ line ∈ lines, ∀ id ∈ line.mentions, id.kind = kind) :
    replayEdges store entries = .ok (store.insertAll lines) := by
  induction lines generalizing store entries with
  | nil =>
    rw [List.map_nil, List.map_eq_nil_iff] at same
    rw [same]
    rfl
  | cons line rest ih =>
    obtain ⟨entry, later, rfl, first, others⟩ := List.map_eq_cons_iff.1 same
    have own := mentioned line List.mem_cons_self
    have added : store.addEdge entry.update = (store.insert line, none) :=
      perform_entry valid alike first rfl own
    obtain ⟨inserted, still⟩ := Store.insert_alike valid alike own
    rw [replayEdges, added]
    exact ih inserted still others fun other member =>
      mentioned other (List.mem_cons_of_mem line member)

theorem replay_document {store : Store} (valid : store.WellFormed) :
    store.document.replay = .ok (Store.empty.insertAll store.grouped) := by
  obtain ⟨kind, alike⟩ := Store.exists_kind valid
  have mentioned : ∀ line ∈ store.grouped, ∀ id ∈ line.mentions, id.kind = kind := by
    intro line member id inside
    have known := (Ledger.mem_ids store.grouped).2 ⟨line, member, inside⟩
    rw [Store.ids_grouped valid] at known
    exact alike id known
  have nodes : ∀ line ∈ store.groupedNodes, ∀ id ∈ line.mentions, id.kind = kind :=
    fun line member => mentioned line (List.mem_append_left _ member)
  have edges : ∀ line ∈ store.groupedEdges, ∀ id ∈ line.mentions, id.kind = kind :=
    fun line member => mentioned line (List.mem_append_right _ member)
  have bare : ∀ id ∈ Store.empty.ids, id.kind = kind := fun _ member =>
    absurd member List.not_mem_nil
  have nodeCalls : store.records.nodes.map (fun entry => Call.node entry.update) =
      store.groupedNodes.map Insertion.call := by
    simp only [Store.records, Store.groupedNodes, List.map_flatMap, Node.entries, Node.updates,
      List.map_map]
    rfl
  have edgeCalls : store.records.edges.map (fun entry => Call.edge entry.update) =
      store.groupedEdges.map Insertion.call := by
    simp only [Store.records, Store.groupedEdges, List.map_flatMap, Edge.entries, Edge.updates,
      List.map_map]
    rfl
  obtain ⟨rebuilt, still⟩ := Store.insertAll_alike Store.wellFormed_empty bare nodes
  rw [Store.document_eq_records valid, Document.replay,
    replayNodes_eq Store.wellFormed_empty bare nodeCalls nodes]
  simp only [replayEdges_eq rebuilt still edgeCalls edges]
  rw [Store.grouped, Store.insertAll_append]

end GraphFile

end TemporalNetwork
