import TemporalNetwork.Proofs.GraphFile.Format
import TemporalNetwork.Proofs.Json.Brackets
import TemporalNetwork.Proofs.Reachable

/-!
Files that were cut off. The document of a graph is one JSON object, which is open up to the last
character of its file. Main statement: the file of a graph, cut anywhere before its end, is never
loaded, and what is wrong with it is its content.
-/

namespace TemporalNetwork.GraphFile

variable {store : Store}

-- What is left of the file is still ASCII, so the reader sees the text as it was cut.
theorem ofBytes_of_cut (valid : store.WellFormed) (writable : store.Writable) {part : List Char}
    (before : part <+: store.json.render .file 0) (proper : part ≠ store.json.render .file 0) :
    ∃ error, ofBytes (Utf8.encode part) = .error (.json part error) ∧
      (LoadFault.json part error).OfContent := by
  have plain := store.isPlain_json valid writable
  have ascii : ∀ c ∈ part, IsAscii c := fun c member =>
    Json.ascii_render store.json plain 0 c (before.subset member)
  have shallow : store.json.height ≤ Json.nestingLimit :=
    Nat.le_trans (store.height_json valid writable) (by decide)
  obtain ⟨error, failed, content⟩ := Json.parse_of_cut Json.inside_file plain
    (Nat.succ_pos _) shallow before proper
  refine ⟨error, ?_, content⟩
  rw [ofBytes, Utf8.decode_encode_ascii ascii]
  simp only [parse, Utf8.universalNewlines_ascii ascii, failed]

/-- A file that was cut off is always detected: whatever is left of a graph's text, nothing included,
the file that holds it is not loaded. -/
theorem load_truncated {carries : Value → Prop} (reached : Reachable carries store)
    (writable : store.Writable) :
    store.document.write.fault = none ∧
      ∀ part, part <+: store.document.write.text → part ≠ store.document.write.text →
        ∃ error, (LoadFault.json part error).OfContent ∧
          ∀ (workspace : Workspace) (path : String),
            workspace.read path = .ok (Utf8.encode part) →
              load workspace path = .error (.json part error) := by
  have valid := reached.wellFormed
  rw [store.write_document valid writable]
  refine ⟨rfl, fun part before proper => ?_⟩
  obtain ⟨error, failed, content⟩ := ofBytes_of_cut valid writable before proper
  refine ⟨error, content, ?_⟩
  intro workspace path found
  rw [load, found]
  exact failed

/-- A node whose name looks like the end of a document, cut off in the middle of it. -/
theorem load_truncated_in_name :
    let update : Call := .node
      { time := .int 5, id := .text "\x7d]\x7d", properties := .int 3, type := .none }
    let store := (Store.empty.perform update).1
    let part := store.document.write.text.take 37
    (Reachable (fun _ => True) store ∧ store.Writable) ∧
      (part <+: store.document.write.text ∧ part ≠ store.document.write.text) ∧
      ∃ error, (LoadFault.json part error).OfContent ∧
        ∀ (workspace : Workspace) (path : String),
          workspace.read path = .ok (Utf8.encode part) →
            load workspace path = .error (.json part error) := by
  intro update store part
  have reached : Reachable (fun _ => True) store := .call .empty update trivial
  have built : store = {
      nodes := [
        { id := .text "\x7d]\x7d", history := .start 5, type := .none, properties := []
          edges := [] }]
      kind? := some .text
      earliest := none
      latest := none } := rfl
  have writable : store.Writable := by
    constructor
    · simp [built]
    · simp [built, Store.ids, NodeId.fits, NodeId.toValue, Value.fits]
    · simp [built, History.start, History.times, Decimal.fits_of_lt]
    · simp [built, Store.edgeList]
  have before : part <+: store.document.write.text := List.take_prefix _ _
  have proper : part ≠ store.document.write.text := by decide +kernel
  exact ⟨⟨reached, writable⟩, ⟨before, proper⟩,
    (load_truncated reached writable).2 part before proper⟩

end TemporalNetwork.GraphFile
