import TemporalNetwork.Proofs.Decimal
import TemporalNetwork.Proofs.Encoding.Ascii
import TemporalNetwork.Proofs.GraphFile.Document
import TemporalNetwork.Proofs.GraphFile.Replay
import TemporalNetwork.Proofs.Reachable
import TemporalNetwork.Proofs.Workspace

/-!
A graph is loaded as it was saved. Whatever calls and generations a graph comes from, its file is
read back as the graph without its properties and the types of its edges; every other answer is the
same, and the file of the graph that was loaded is the same file.
-/

namespace TemporalNetwork

/-! ## Answers without what the file does not hold -/

/-- A graph gives the answers of another one, as far as they are about what a file holds, and has
neither properties nor types of edges. -/
structure Restored (store loaded : Store) : Prop where
  nodeIds : loaded.ids = store.ids
  nodeHistory : ∀ key, loaded.nodeHistory key = store.nodeHistory key
  nodeType : ∀ key, loaded.nodeType key = store.nodeType key
  edges : loaded.pairs = store.pairs
  edgeHistory : ∀ source target, loaded.edgeHistory source target = store.edgeHistory source target
  earliest : loaded.earliest = store.earliest
  latest : loaded.latest = store.latest
  kind : loaded.kind? = store.kind?
  nodeProperties : ∀ id node, loaded.node? id = some node → node.properties = []
  edgeProperties : ∀ source target edge, loaded.edge? source target = some edge →
    edge.properties = [] ∧ edge.type = .none

namespace Store

variable (store : Store)

end Store

-- A file is made of answers alone, so the same answers make the same file.
theorem Restored.document {store loaded : Store} (restored : Restored store loaded) :
    loaded.document = store.document := by
  simp only [Store.document, Store.nodeEntries, Store.edgeEntries, restored.nodeIds,
    restored.nodeHistory, restored.nodeType, restored.edges, restored.edgeHistory]

-- A reachable graph shows the ledger of what it took in.
theorem Reachable.shown {store : Store} (reached : Reachable Value.IsPlain store) :
    ∃ ledger, Ledger.Shown store ledger := by
  have nothing : ∃ ledger, Ledger.Shown .empty ledger := ⟨[], Ledger.shown_empty⟩
  apply reached.invariant (.inl rfl) nothing
  rintro before call plain ⟨ledger, shown⟩
  rcases before.perform_cases call with ⟨refusal, refused⟩ | ⟨line, same, accepted, _⟩
  · rw [refused]
    exact ⟨ledger, shown⟩
  · rw [same] at plain ⊢
    rw [Store.perform_plain accepted plain]
    exact ⟨_, Ledger.shown_insert shown line⟩

namespace GraphFile

variable {store : Store}

theorem parse_written (valid : store.WellFormed) (writable : store.Writable)
    (free : store.PairFree) :
    Utf8.decode store.document.write.bytes = .ok (store.json.render .file 0) ∧
      Json.parse (Utf8.universalNewlines (store.json.render .file 0)) = .ok store.json := by
  have plain := store.isPlain_json valid writable
  have ascii := Json.ascii_render store.json plain 0
  constructor
  · rw [Store.write_document valid writable, Written.bytes]
    exact Utf8.decode_encode_ascii ascii
  · rw [Utf8.universalNewlines_ascii ascii]
    apply Json.parse_render Json.reads_file plain (store.isPairFree_json valid free)
    exact Nat.le_trans (store.height_json valid writable) (by decide)

theorem ofBytes_written (reached : Reachable Value.IsPlain store) (writable : store.Writable)
    (free : store.PairFree) :
    ofBytes store.document.write.bytes = .ok store.saved := by
  have valid := reached.wellFormed
  obtain ⟨ledger, shown⟩ := reached.shown
  obtain ⟨decoded, parsed⟩ := parse_written valid writable free
  -- Checking and replaying come after decoding and parsing when a file is loaded.
  rw [ofBytes, decoded]
  simp only [parse, parsed, Store.ofJson_json valid writable, Except.mapError, replay_document valid,
    Store.insertAll_grouped shown valid]

end GraphFile

end TemporalNetwork
