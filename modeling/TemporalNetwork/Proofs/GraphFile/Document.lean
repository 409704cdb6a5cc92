import Mathlib.Data.List.Basic
import TemporalNetwork.GraphFile.Reading
import TemporalNetwork.GraphFile.Writing
import TemporalNetwork.Proofs.GraphFile.Records
import TemporalNetwork.Proofs.Json.RoundTrip

/-!
The document of a graph as JSON. It is read back entry by entry, if the types of the nodes are texts
and the numbers are short enough. Where no text holds both halves of a pair one after the other, its
characters are read back as this JSON, too.
-/

namespace TemporalNetwork

/-- What a file can hold: types that are texts, and numbers that are short enough. -/
structure Store.Writable (store : Store) : Prop where
  types : ∀ node ∈ store.nodes, node.type = .none ∨ ∃ s, node.type = .text s
  ids : ∀ id ∈ store.ids, id.fits = true
  nodeTimes : ∀ node ∈ store.nodes, ∀ t ∈ node.history.times, Decimal.fits t = true
  edgeTimes : ∀ source edge, (source, edge) ∈ store.edgeList → ∀ t ∈ edge.history.times,
    Decimal.fits t = true

/-- No text among the ids and the types has a first half directly before a second one. -/
structure Store.PairFree (store : Store) : Prop where
  ids : ∀ t, .text t ∈ store.ids → Json.PairFree t
  types : ∀ node ∈ store.nodes, ∀ t, node.type = .text t → Json.PairFree t

def NodeId.json : NodeId → Json
  | .int n => .int n
  | .text t => .string t

def Node.typeField (node : Node) : List (Text × Json) :=
  match node.type with
  | .text t => [("type", .string t)]
  | _ => []

def Node.fields (node : Node) (t : Nat) : List (Text × Json) :=
  ("id", node.id.json) :: ("time", .int t) :: node.typeField

def Edge.fields (source : NodeId) (edge : Edge) (t : Nat) : List (Text × Json) :=
  [("source", source.json), ("target", edge.target.json), ("time", .int t)]

namespace Store

variable (store : Store)

def nodeFields : List (List (Text × Json)) :=
  store.nodes.flatMap fun node => node.history.times.map node.fields

def edgeFields : List (List (Text × Json)) :=
  store.edgeList.flatMap fun (source, edge) => edge.history.times.map (edge.fields source)

def json : Json :=
  .object [("nodes", .array (store.nodeFields.map .object)),
    ("edges", .array (store.edgeFields.map .object))]

end Store

namespace Json

theorem toValues_eq (items : List Json) : toValues items = items.map toValue := by
  induction items with
  | nil => rfl
  | cons item rest ih => rw [toValues, ih, List.map_cons]

theorem arePlain_iff (items : List Json) : ArePlain items ↔ ∀ item ∈ items, item.IsPlain := by
  induction items with
  | nil => simp [ArePlain]
  | cons item rest ih => simp [ArePlain, ih]

theorem heights_le {items : List Json} {n : Nat} (low : ∀ item ∈ items, item.height ≤ n) :
    heights items ≤ n := by
  induction items with
  | nil => exact Nat.zero_le n
  | cons item rest ih =>
    rw [heights, Nat.max_le]
    exact ⟨low item List.mem_cons_self, ih fun other member =>
      low other (List.mem_cons_of_mem item member)⟩

end Json

namespace NodeId

theorem toValue_json (id : NodeId) : id.json.toValue = id.toValue := by
  cases id <;> rfl

theorem height_json (id : NodeId) : id.json.height = 0 := by
  cases id <;> rfl

theorem isPlain_json {id : NodeId} (fits : id.fits = true) : id.json.IsPlain := by
  cases id with
  | int n => exact fits
  | text s => trivial

end NodeId

namespace Store

open GraphFile

variable {store : Store}

theorem mem_nodeFields {fields : List (Text × Json)} (member : fields ∈ store.nodeFields) :
    ∃ node ∈ store.nodes, ∃ t ∈ node.history.times, fields = node.fields t := by
  obtain ⟨node, inside, recorded⟩ := List.mem_flatMap.1 member
  obtain ⟨t, time, rfl⟩ := List.mem_map.1 recorded
  exact ⟨node, inside, t, time, rfl⟩

theorem mem_edgeFields {fields : List (Text × Json)} (member : fields ∈ store.edgeFields) :
    ∃ source edge, (source, edge) ∈ store.edgeList ∧ ∃ t ∈ edge.history.times,
      fields = edge.fields source t := by
  obtain ⟨⟨source, edge⟩, inside, recorded⟩ := List.mem_flatMap.1 member
  obtain ⟨t, time, rfl⟩ := List.mem_map.1 recorded
  exact ⟨source, edge, inside, t, time, rfl⟩

/-! ## Writing -/

theorem toValue_fields (node : Node) (labelled : node.type = .none ∨ ∃ s, node.type = .text s)
    (t : Nat) :
    Value.dict (Json.toEntries (node.fields t)) =
      NodeEntry.toValue { id := node.id.toValue, time := .int t, type := node.type } := by
  rcases labelled with none | ⟨s, text⟩
  · simp [Node.fields, Node.typeField, none, Json.toValue, Json.toEntries, NodeEntry.toValue,
      NodeId.toValue_json]
  · simp [Node.fields, Node.typeField, text, Json.toValue, Json.toEntries, NodeEntry.toValue,
      NodeId.toValue_json]

theorem toValue_edgeFields (source : NodeId) (edge : Edge) (t : Nat) :
    Value.dict (Json.toEntries (edge.fields source t)) =
      EdgeEntry.toValue
        { source := source.toValue, target := edge.target.toValue, time := .int t } := by
  simp [Edge.fields, Json.toValue, Json.toEntries, EdgeEntry.toValue, NodeId.toValue_json]

theorem toValue_json (valid : store.WellFormed) (writable : store.Writable) :
    store.json.toValue = store.document.toValue := by
  rw [document_eq_records valid]
  have nodes : store.nodeFields.map (fun fields => Value.dict (Json.toEntries fields)) =
      store.records.nodes.map NodeEntry.toValue := by
    simp only [nodeFields, records, List.map_flatMap, Node.entries, List.map_map]
    apply List.flatMap_congr
    intro node member
    apply List.map_congr_left
    intro t _
    exact toValue_fields node (writable.types node member) t
  have edges : store.edgeFields.map (fun fields => Value.dict (Json.toEntries fields)) =
      store.records.edges.map EdgeEntry.toValue := by
    simp only [edgeFields, records, List.map_flatMap, Edge.entries, List.map_map]
    apply List.flatMap_congr
    intro pair _
    apply List.map_congr_left
    intro t _
    exact toValue_edgeFields pair.1 pair.2 t
  simp only [json, Json.toValue, Json.toEntries, Json.toValues_eq, List.map_map,
    Function.comp_def, nodes, edges, Document.toValue]

theorem isPlain_nodeFields (writable : store.Writable) {fields : List (Text × Json)}
    (member : fields ∈ store.nodeFields) :
    (Json.object fields).IsPlain ∧ (Json.object fields).height = 1 := by
  obtain ⟨node, inside, t, time, rfl⟩ := mem_nodeFields member
  have id := NodeId.isPlain_json (writable.ids node.id (List.mem_map_of_mem inside))
  have number := writable.nodeTimes node inside t time
  rcases writable.types node inside with none | ⟨s, text⟩
  · simp [Node.fields, Node.typeField, none, Json.IsPlain, Json.FieldsArePlain, id, number,
      Json.height, Json.fieldHeights, NodeId.height_json]
  · simp [Node.fields, Node.typeField, text, Json.IsPlain, Json.FieldsArePlain, id, number,
      Json.height, Json.fieldHeights, NodeId.height_json]

theorem isPlain_edgeFields (valid : store.WellFormed) (writable : store.Writable)
    {fields : List (Text × Json)} (member : fields ∈ store.edgeFields) :
    (Json.object fields).IsPlain ∧ (Json.object fields).height = 1 := by
  obtain ⟨source, edge, inside, t, time, rfl⟩ := mem_edgeFields member
  obtain ⟨node, found, own⟩ := (mem_edgeList valid).1 inside
  have first := NodeId.isPlain_json (writable.ids source (mem_ids_of_node? found))
  have second := NodeId.isPlain_json
    (writable.ids edge.target (valid.closed found edge.target (List.mem_map_of_mem own)))
  have number := writable.edgeTimes source edge inside t time
  simp [Edge.fields, Json.IsPlain, Json.FieldsArePlain, first, second, number, Json.height,
    Json.fieldHeights, NodeId.height_json]

theorem isPlain_json (valid : store.WellFormed) (writable : store.Writable) :
    store.json.IsPlain := by
  have nodes : Json.ArePlain (store.nodeFields.map .object) := by
    rw [Json.arePlain_iff, List.forall_mem_map]
    exact fun fields member => (isPlain_nodeFields writable member).1
  have edges : Json.ArePlain (store.edgeFields.map .object) := by
    rw [Json.arePlain_iff, List.forall_mem_map]
    exact fun fields member => (isPlain_edgeFields valid writable member).1
  simp [json, Json.IsPlain, Json.FieldsArePlain, nodes, edges]

theorem isPairFree_id (free : store.PairFree) {id : NodeId} (member : id ∈ store.ids) :
    id.json.IsPairFree := by
  cases id with
  | int n => trivial
  | text t => exact free.ids t member

theorem isPairFree_nodeFields (free : store.PairFree) {fields : List (Text × Json)}
    (member : fields ∈ store.nodeFields) : (Json.object fields).IsPairFree := by
  obtain ⟨node, inside, t, _, rfl⟩ := mem_nodeFields member
  have id : node.id.json.IsPairFree := isPairFree_id free (List.mem_map_of_mem inside)
  have type : Json.FieldsArePairFree node.typeField := by
    rw [Node.typeField]
    split
    · next s own => exact ⟨Json.pairFree_whole _, free.types node inside s own, trivial⟩
    · trivial
  exact ⟨Json.pairFree_whole _, id, Json.pairFree_whole _, trivial, type⟩

theorem isPairFree_edgeFields (valid : store.WellFormed) (free : store.PairFree)
    {fields : List (Text × Json)} (member : fields ∈ store.edgeFields) :
    (Json.object fields).IsPairFree := by
  obtain ⟨source, edge, inside, t, _, rfl⟩ := mem_edgeFields member
  obtain ⟨node, found, own⟩ := (mem_edgeList valid).1 inside
  have first : source.json.IsPairFree :=
    isPairFree_id free (mem_ids_of_node? found)
  have second : edge.target.json.IsPairFree :=
    isPairFree_id free (valid.closed found edge.target (List.mem_map_of_mem own))
  exact ⟨Json.pairFree_whole _, first, Json.pairFree_whole _, second, Json.pairFree_whole _, trivial,
    trivial⟩

theorem isPairFree_json (valid : store.WellFormed) (free : store.PairFree) :
    store.json.IsPairFree := by
  have nodes : Json.ArePairFree (store.nodeFields.map .object) := by
    rw [Json.arePairFree_iff, List.forall_mem_map]
    exact fun fields member => isPairFree_nodeFields free member
  have edges : Json.ArePairFree (store.edgeFields.map .object) := by
    rw [Json.arePairFree_iff, List.forall_mem_map]
    exact fun fields member => isPairFree_edgeFields valid free member
  exact ⟨Json.pairFree_whole _, nodes, Json.pairFree_whole _, edges, trivial⟩

-- Entries stand in a list, and lists in the document.
theorem height_json (valid : store.WellFormed) (writable : store.Writable) :
    store.json.height ≤ 3 := by
  have nodes : Json.heights (store.nodeFields.map .object) ≤ 1 := by
    apply Json.heights_le
    rw [List.forall_mem_map]
    exact fun fields member => Nat.le_of_eq (isPlain_nodeFields writable member).2
  have edges : Json.heights (store.edgeFields.map .object) ≤ 1 := by
    apply Json.heights_le
    rw [List.forall_mem_map]
    exact fun fields member => Nat.le_of_eq (isPlain_edgeFields valid writable member).2
  simp only [json, Json.height, Json.fieldHeights]
  omega

theorem write_document (valid : store.WellFormed) (writable : store.Writable) :
    store.document.write = { text := store.json.render .file 0, fault := none } := by
  have whole := Json.ofValue_toValue store.json
    (Json.isWritable_of_isPlain _ (isPlain_json valid writable))
  rw [Document.write, ← toValue_json valid writable, whole]

/-! ## Reading -/

theorem allFields_eq {part : Section} {entries : List (List (Text × Json))}
    (whole : ∀ fields ∈ entries, ∀ key ∈ part.keys, (Json.field? fields key).isSome) (index : Nat)
    (read : List (List (Text × Json))) :
    allFields part index read (entries.map .object) = .ok (read.reverse ++ entries) := by
  induction entries generalizing index read with
  | nil => simp [allFields]
  | cons fields rest ih =>
    have complete : part.keys.filter (fun key : String => (Json.field? fields key).isNone) = [] := by
      rw [List.filter_eq_nil_iff]
      intro key member
      simp [Option.isSome_iff_ne_none.1 (whole fields List.mem_cons_self key member)]
    rw [List.map_cons, allFields, entryFields, complete]
    simp only
    rw [ih fun other member => whole other (List.mem_cons_of_mem fields member)]
    simp

theorem ofFields_node (node : Node) (labelled : node.type = .none ∨ ∃ s, node.type = .text s)
    (t : Nat) :
    NodeEntry.ofFields (node.fields t) =
      { id := node.id.toValue, time := .int t, type := node.type } := by
  rcases labelled with none | ⟨s, text⟩
  · simp [NodeEntry.ofFields, fieldValue, Json.field?, Node.fields, Node.typeField, none,
      NodeId.toValue_json, Json.toValue]
  · simp [NodeEntry.ofFields, fieldValue, Json.field?, Node.fields, Node.typeField, text,
      NodeId.toValue_json, Json.toValue]

theorem ofFields_edge (source : NodeId) (edge : Edge) (t : Nat) :
    EdgeEntry.ofFields (edge.fields source t) =
      { source := source.toValue, target := edge.target.toValue, time := .int t } := by
  simp [EdgeEntry.ofFields, fieldValue, Json.field?, Edge.fields, NodeId.toValue_json,
    Json.toValue]

theorem ofJson_json (valid : store.WellFormed) (writable : store.Writable) :
    Document.ofJson store.json = .ok store.document := by
  rw [document_eq_records valid]
  have nodes : allFields .nodes 0 [] (store.nodeFields.map .object) = .ok store.nodeFields := by
    apply allFields_eq
    intro fields member
    obtain ⟨node, _, t, _, rfl⟩ := mem_nodeFields member
    simp [Section.keys, Node.fields, Json.field?]
  have edges : allFields .edges 0 [] (store.edgeFields.map .object) = .ok store.edgeFields := by
    apply allFields_eq
    intro fields member
    obtain ⟨source, edge, _, t, _, rfl⟩ := mem_edgeFields member
    simp [Section.keys, Edge.fields, Json.field?]
  have nodeEntries : store.nodeFields.map NodeEntry.ofFields = store.records.nodes := by
    simp only [nodeFields, records, List.map_flatMap, List.map_map]
    apply List.flatMap_congr
    intro node member
    apply List.map_congr_left
    intro t _
    exact ofFields_node node (writable.types node member) t
  have edgeEntries : store.edgeFields.map EdgeEntry.ofFields = store.records.edges := by
    simp only [edgeFields, records, List.map_flatMap, Edge.entries, List.map_map]
    apply List.flatMap_congr
    intro pair _
    apply List.map_congr_left
    intro t _
    exact ofFields_edge pair.1 pair.2 t
  simp only [json, Document.ofJson, Document.ofFields, sectionEntries, Section.field, Json.field?]
  simp [nodes, edges, nodeEntries, edgeEntries]

end Store

end TemporalNetwork
