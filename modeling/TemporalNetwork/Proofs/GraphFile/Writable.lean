import TemporalNetwork.Proofs.GraphFile.Document
import TemporalNetwork.Proofs.Store.CallLog

/-!
What a graph's file tells by being whole. Where the writing met no fault, every number was short
enough to be written, and so is the latest time, which is one of those that were written.
-/

namespace TemporalNetwork

namespace Json

variable {json : Json}

theorem ofValue_of_ofItems {done : List Json} {items : List Value}
    (written : ofItems done items = .ok json) :
    ∀ item ∈ items, ∃ part, ofValue item = .ok part := by
  induction items generalizing done with
  | nil => exact fun _ member => absurd member List.not_mem_nil
  | cons item rest ih =>
    rw [ofItems] at written
    split at written
    · next part own => exact List.forall_mem_cons.2 ⟨⟨part, own⟩, ih written⟩
    · cases written

theorem ofValue_of_ofEntries {done : List (Text × Json)} {entries : List (Value × Value)}
    (written : ofEntries done entries = .ok json) :
    ∀ entry ∈ entries, ∃ part, ofValue entry.2 = .ok part := by
  induction entries generalizing done with
  | nil => exact fun _ member => absurd member List.not_mem_nil
  | cons entry rest ih =>
    rw [ofEntries] at written
    split at written
    · cases written
    · split at written
      · next part own => exact List.forall_mem_cons.2 ⟨⟨part, own⟩, ih written⟩
      · cases written

theorem fits_of_ofValue {n : Int} (written : ofValue (.int n) = .ok json) :
    Decimal.fits n = true := by
  rw [ofValue] at written
  split at written
  · assumption
  · cases written

end Json

theorem NodeId.fits_of_ofValue {id : NodeId} {json : Json}
    (written : Json.ofValue id.toValue = .ok json) : id.fits = true := by
  cases id with
  | int n => exact Json.fits_of_ofValue written
  | text s => rfl

namespace GraphFile

variable {document : Document}

/-! ## Entries of a document that was written -/

theorem ofValue_sections (whole : document.write.fault = none) :
    (∀ entry ∈ document.nodes, ∃ json, Json.ofValue entry.toValue = .ok json) ∧
      ∀ entry ∈ document.edges, ∃ json, Json.ofValue entry.toValue = .ok json := by
  rw [Document.write] at whole
  split at whole
  · next written =>
    rw [Document.toValue, Json.ofValue] at written
    have sections := Json.ofValue_of_ofEntries written
    simp only [List.forall_mem_cons, Json.ofValue] at sections
    obtain ⟨⟨_, nodes⟩, ⟨_, edges⟩, _⟩ := sections
    constructor
    · intro entry member
      exact Json.ofValue_of_ofItems nodes entry.toValue (List.mem_map_of_mem member)
    · intro entry member
      exact Json.ofValue_of_ofItems edges entry.toValue (List.mem_map_of_mem member)
  · cases whole

theorem NodeEntry.ofValue_fields {entry : NodeEntry} {json : Json}
    (written : Json.ofValue entry.toValue = .ok json) :
    (∃ part, Json.ofValue entry.id = .ok part) ∧ ∃ part, Json.ofValue entry.time = .ok part := by
  rw [NodeEntry.toValue, Json.ofValue] at written
  have fields := Json.ofValue_of_ofEntries written
  refine ⟨fields (.text "id", entry.id) ?_, fields (.text "time", entry.time) ?_⟩ <;>
    split <;> simp

theorem EdgeEntry.ofValue_fields {entry : EdgeEntry} {json : Json}
    (written : Json.ofValue entry.toValue = .ok json) :
    ∃ part, Json.ofValue entry.time = .ok part := by
  rw [EdgeEntry.toValue, Json.ofValue] at written
  exact Json.ofValue_of_ofEntries written (.text "time", entry.time) (by simp)

end GraphFile

namespace Store

open GraphFile

variable {store : Store}

/-- A graph whose types are texts can be written if it was. -/
theorem writable_of_write (valid : store.WellFormed)
    (types : ∀ node ∈ store.nodes, node.type = .none ∨ ∃ s, node.type = .text s)
    (whole : store.document.write.fault = none) : store.Writable := by
  rw [document_eq_records valid] at whole
  obtain ⟨nodes, edges⟩ := ofValue_sections whole
  have nodeParts : ∀ node ∈ store.nodes, ∀ t ∈ node.history.times,
      node.id.fits = true ∧ Decimal.fits t = true := by
    intro node member t recorded
    have entry : (NodeEntry.mk node.id.toValue (.int t) node.type) ∈ store.records.nodes :=
      List.mem_flatMap.2 ⟨node, member, List.mem_map.2 ⟨t, recorded, rfl⟩⟩
    obtain ⟨_, written⟩ := nodes _ entry
    obtain ⟨⟨_, id⟩, _, time⟩ := NodeEntry.ofValue_fields written
    exact ⟨NodeId.fits_of_ofValue id, Json.fits_of_ofValue time⟩
  constructor
  · exact types
  · intro id member
    obtain ⟨node, inside, rfl⟩ := List.mem_map.1 member
    -- A node is written once for each of its times, and it has one.
    exact (nodeParts node inside node.history.first List.mem_cons_self).1
  · exact fun node member t recorded => (nodeParts node member t recorded).2
  · intro source edge member t recorded
    have entry : (EdgeEntry.mk source.toValue edge.target.toValue (.int t)) ∈
        store.records.edges :=
      List.mem_flatMap.2 ⟨(source, edge), member, List.mem_map.2 ⟨t, recorded, rfl⟩⟩
    obtain ⟨_, written⟩ := edges _ entry
    obtain ⟨_, time⟩ := EdgeEntry.ofValue_fields written
    exact Json.fits_of_ofValue time

theorem Writable.latest (writable : store.Writable) (valid : store.WellFormed) {ledger : Ledger}
    (shown : Ledger.Shown store ledger) {t : Nat} (last : store.latest = some t) :
    Decimal.fits t = true := by
  rw [shown.latest, Ledger.latest] at last
  rcases shown.mem_times.1 (List.max?_mem last) with
    ⟨id, node, found, recorded⟩ | ⟨source, target, edge, found, recorded⟩
  · exact writable.nodeTimes node (List.mem_of_find?_eq_some found) t recorded
  · rw [edge?_eq, Option.bind_eq_some_iff] at found
    obtain ⟨node, known, own⟩ := found
    have listed := (mem_edgeList valid).2 ⟨node, known, List.mem_of_find?_eq_some own⟩
    exact writable.edgeTimes source edge listed t recorded

end Store

end TemporalNetwork
