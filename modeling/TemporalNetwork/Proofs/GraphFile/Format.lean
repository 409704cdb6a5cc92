import TemporalNetwork.GraphFile.Reading
import TemporalNetwork.Proofs.Encoding.Ascii
import TemporalNetwork.Proofs.GraphFile.Acceptance
import TemporalNetwork.Proofs.GraphFile.Document
import TemporalNetwork.Proofs.Json.Nesting

/-!
The format of a graph's file, stated without the order in which it is checked. Main statement: a file
is loaded exactly if its JSON has the format, the graph is then the one that the entries make of the
empty graph, and a file that is not loaded has a fault in its content.
-/

namespace TemporalNetwork

namespace Json

def fields : Json → List (Text × Json)
  | .object fields => fields
  | _ => []

def member? (json : Json) (name : String) : Option Json := field? json.fields name

end Json

namespace GraphFile

/-! ## The format -/

def entries (json : Json) (part : Section) : List Json :=
  match json.member? part.field with
  | some (.array entries) => entries
  | _ => []

def Section.idKeys : Section → List String
  | .nodes => ["id"]
  | .edges => ["source", "target"]

def idsIn (json : Json) : List Json :=
  [Section.nodes, .edges].flatMap fun part =>
    (entries json part).flatMap fun entry => part.idKeys.filterMap entry.member?

/-- An entry is an object and has its keys. -/
def Section.Complete (part : Section) (entry : Json) : Prop :=
  (∃ fields, entry = .object fields) ∧ ∀ key ∈ part.keys, ∃ found, entry.member? key = some found

/-- What is asked before the first entry is replayed. -/
structure Outline (json : Json) : Prop where
  object : ∃ fields, json = .object fields
  sections : ∀ part found, json.member? (Section.field part) = some found →
    ∃ entries, found = .array entries
  complete : ∀ part, ∀ entry ∈ entries json part, part.Complete entry

/-- The format of a graph's file. -/
structure Format (json : Json) : Prop extends Outline json where
  times : ∀ part, ∀ entry ∈ entries json part, ∃ t : Nat, entry.member? "time" = some (.int t)
  ids : (∀ id ∈ idsIn json, ∃ n, id = .int n) ∨ ∀ id ∈ idsIn json, ∃ s, id = .string s

/-- What an entry asks for: an update of a node, with its type, or of an edge. -/
def Section.call : Section → Json → Call
  | .nodes, entry => .node {
      time := fieldValue entry.fields "time"
      id := fieldValue entry.fields "id"
      properties := .none
      type := fieldValue entry.fields "type" }
  | .edges, entry => .edge {
      time := fieldValue entry.fields "time"
      source := fieldValue entry.fields "source"
      target := fieldValue entry.fields "target"
      properties := .none
      type := .none }

def calls (json : Json) : List Call :=
  (entries json .nodes).map Section.nodes.call ++ (entries json .edges).map Section.edges.call

/-! ## The outline -/

theorem sectionEntries_eq_ok {own : List (Text × Json)} {part : Section} {listed : List Json} :
    sectionEntries own part = .ok listed ↔
      (∀ found, Json.field? own part.field = some found → ∃ entries, found = .array entries) ∧
        listed = entries (.object own) part := by
  rw [sectionEntries, entries, Json.member?, Json.fields]
  cases Json.field? own part.field with
  | none => simp [eq_comm]
  | some json =>
    cases json with
    | array entries => simp [eq_comm]
    | _ => simp

theorem entryFields_eq_ok {part : Section} {index : Nat} {entry : Json}
    {own : List (Text × Json)} :
    entryFields part index entry = .ok own ↔ part.Complete entry ∧ own = entry.fields := by
  cases entry with
  | object fields =>
    have missing : (part.keys.filter fun key : String => (Json.field? fields key).isNone) = [] ↔
        part.Complete (.object fields) := by
      simp [Section.Complete, Json.member?, Json.fields, List.filter_eq_nil_iff,
        Option.ne_none_iff_exists']
    rw [entryFields, ← missing]
    cases part.keys.filter fun key : String => (Json.field? fields key).isNone <;>
      simp [Json.fields, eq_comm]
  | _ => simp [entryFields, Section.Complete]

theorem allFields_eq_ok {part : Section} {index : Nat} {read all : List (List (Text × Json))}
    {listed : List Json} :
    allFields part index read listed = .ok all ↔
      (∀ entry ∈ listed, part.Complete entry) ∧
        all = read.reverse ++ listed.map Json.fields := by
  induction listed generalizing index read with
  | nil => simp [allFields, eq_comm]
  | cons entry rest ih =>
    rw [allFields, List.forall_mem_cons]
    cases own : entryFields part index entry with
    | error fault =>
      have incomplete : ¬part.Complete entry := by
        intro complete
        rw [entryFields_eq_ok.2 ⟨complete, rfl⟩] at own
        cases own
      simp [incomplete]
    | ok fields =>
      obtain ⟨complete, rfl⟩ := entryFields_eq_ok.1 own
      simp [ih, complete]

def outlined (json : Json) : Document where
  nodes := (entries json .nodes).map fun entry => .ofFields entry.fields
  edges := (entries json .edges).map fun entry => .ofFields entry.fields

theorem calls_outlined (json : Json) : (outlined json).calls = calls json := by
  rw [Document.calls, outlined, calls, List.map_map, List.map_map]
  rfl

theorem outline_of_ofJson {json : Json} {document : Document}
    (read : Document.ofJson json = .ok document) : Outline json ∧ document = outlined json := by
  cases json with
  | object own =>
    rw [Document.ofJson, Document.ofFields] at read
    split at read
    · cases read
    · cases read
    · next nodes edges =>
      obtain ⟨nodeSection, rfl⟩ := sectionEntries_eq_ok.1 nodes
      obtain ⟨edgeSection, rfl⟩ := sectionEntries_eq_ok.1 edges
      split at read
      · cases read
      · cases read
      · next nodeFields edgeFields =>
        obtain ⟨completeNodes, rfl⟩ := allFields_eq_ok.1 nodeFields
        obtain ⟨completeEdges, rfl⟩ := allFields_eq_ok.1 edgeFields
        cases read
        refine ⟨⟨⟨own, rfl⟩, ?_, ?_⟩, ?_⟩
        · rintro (_ | _)
          · exact nodeSection
          · exact edgeSection
        · rintro (_ | _)
          · exact completeNodes
          · exact completeEdges
        · simp [outlined]
  | _ => cases read

theorem ofJson_outlined {json : Json} (outline : Outline json) :
    Document.ofJson json = .ok (outlined json) := by
  obtain ⟨own, rfl⟩ := outline.object
  have nodes := sectionEntries_eq_ok.2 ⟨outline.sections .nodes, rfl⟩
  have edges := sectionEntries_eq_ok.2 ⟨outline.sections .edges, rfl⟩
  have nodeFields : allFields .nodes 0 [] (entries (.object own) .nodes) = .ok _ :=
    allFields_eq_ok.2 ⟨outline.complete .nodes, rfl⟩
  have edgeFields : allFields .edges 0 [] (entries (.object own) .edges) = .ok _ :=
    allFields_eq_ok.2 ⟨outline.complete .edges, rfl⟩
  simp only [Document.ofJson, Document.ofFields, Json.fields] at nodes edges ⊢
  rw [nodes, edges]
  simp only [nodeFields, edgeFields]
  simp [outlined]

/-! ## Times and ids -/

theorem toValue_eq_int {json : Json} {n : Int} : json.toValue = .int n ↔ json = .int n := by
  cases json <;> simp [Json.toValue]

theorem toValue_eq_id {json : Json} {id : NodeId} : json.toValue = id.toValue ↔ json = id.json := by
  cases id <;> cases json <;> simp [Json.toValue, NodeId.toValue, NodeId.json]

theorem fieldValue_of_member {entry found : Json} {key : String}
    (member : entry.member? key = some found) : fieldValue entry.fields key = found.toValue := by
  rw [Json.member?] at member
  rw [fieldValue, member]

def Names (kind : NodeId.Kind) (json : Json) : Prop := ∃ id : NodeId, json = id.json ∧ id.kind = kind

theorem names_int {json : Json} : Names .int json ↔ ∃ n, json = .int n := by
  constructor
  · rintro ⟨n | s, same, kind⟩
    · exact ⟨n, same⟩
    · cases kind
  · rintro ⟨n, same⟩
    exact ⟨.int n, same, rfl⟩

theorem names_text {json : Json} : Names .text json ↔ ∃ s, json = .string s := by
  constructor
  · rintro ⟨n | s, same, kind⟩
    · cases kind
    · exact ⟨s, same⟩
  · rintro ⟨s, same⟩
    exact ⟨.text s, same, rfl⟩

theorem suits_call {part : Section} {entry : Json} (complete : part.Complete entry)
    (kind : NodeId.Kind) :
    Store.Suits kind (part.call entry) ↔
      (∃ t : Nat, entry.member? "time" = some (.int t)) ∧
        ∀ key ∈ part.idKeys, ∃ found, entry.member? key = some found ∧ Names kind found := by
  cases part with
  | nodes =>
    obtain ⟨time, hasTime⟩ := complete.2 "time" (by decide)
    obtain ⟨id, hasId⟩ := complete.2 "id" (by decide)
    simp only [Section.call, Section.idKeys, List.forall_mem_singleton, fieldValue_of_member hasId,
      fieldValue_of_member hasTime, hasId, hasTime, Option.some.injEq, exists_eq_left',
      ← toValue_eq_int]
    constructor
    · rintro ⟨line, same, alike⟩
      cases line with
      | node t named type properties =>
        simp only [Insertion.call, Call.node.injEq, NodeUpdate.mk.injEq] at same
        exact ⟨⟨t, same.1⟩, named, toValue_eq_id.1 same.2.1, alike named List.mem_cons_self⟩
      | edge => cases same
    · rintro ⟨⟨t, atTime⟩, named, same, alike⟩
      refine ⟨.node t named (fieldValue entry.fields "type") .none, ?_, ?_⟩
      · simp only [Insertion.call, atTime, toValue_eq_id.2 same]
      · simpa [Insertion.mentions] using alike
  | edges =>
    obtain ⟨time, hasTime⟩ := complete.2 "time" (by decide)
    obtain ⟨source, hasSource⟩ := complete.2 "source" (by decide)
    obtain ⟨target, hasTarget⟩ := complete.2 "target" (by decide)
    simp only [Section.call, Section.idKeys, List.forall_mem_cons, List.not_mem_nil,
      fieldValue_of_member hasSource, fieldValue_of_member hasTarget, fieldValue_of_member hasTime,
      hasSource, hasTarget, hasTime, Option.some.injEq, exists_eq_left', ← toValue_eq_int]
    constructor
    · rintro ⟨line, same, alike⟩
      cases line with
      | node => cases same
      | edge t first second type properties =>
        simp only [Insertion.call, Call.edge.injEq, EdgeUpdate.mk.injEq] at same
        simp only [Insertion.mentions, List.forall_mem_cons] at alike
        exact ⟨⟨t, same.1⟩, ⟨first, toValue_eq_id.1 same.2.1, alike.1⟩,
          ⟨second, toValue_eq_id.1 same.2.2.1, alike.2.1⟩, fun _ => False.elim⟩
    · rintro ⟨⟨t, atTime⟩, ⟨first, same, alike⟩, ⟨second, also, agree⟩, _⟩
      refine ⟨.edge t first second .none .none, ?_, ?_⟩
      · simp only [Insertion.call, atTime, toValue_eq_id.2 same, toValue_eq_id.2 also]
      · simp [Insertion.mentions, alike, agree]

theorem mem_idsIn {json id : Json} :
    id ∈ idsIn json ↔
      ∃ part, ∃ entry ∈ entries json part, ∃ key ∈ part.idKeys, entry.member? key = some id := by
  simp only [idsIn, List.mem_flatMap, List.mem_filterMap]
  constructor
  · rintro ⟨part, _, found⟩
    exact ⟨part, found⟩
  · rintro ⟨part, found⟩
    exact ⟨part, by cases part <;> simp, found⟩

theorem forall_calls {json : Json} {holds : Call → Prop} :
    (∀ call ∈ calls json, holds call) ↔
      ∀ part, ∀ entry ∈ entries json part, holds (part.call entry) := by
  rw [calls, List.forall_mem_append, List.forall_mem_map, List.forall_mem_map]
  constructor
  · rintro ⟨nodes, edges⟩ (_ | _)
    · exact nodes
    · exact edges
  · intro all
    exact ⟨all .nodes, all .edges⟩

theorem idKeys_subset (part : Section) : part.idKeys ⊆ part.keys := by
  cases part <;> decide

theorem format_iff {json : Json} (outline : Outline json) :
    Format json ↔ ∃ kind, ∀ call ∈ calls json, Store.Suits kind call := by
  have kinds : ((∀ id ∈ idsIn json, ∃ n, id = .int n) ∨ ∀ id ∈ idsIn json, ∃ s, id = .string s) ↔
      ∃ kind, ∀ id ∈ idsIn json, Names kind id := by
    simp only [← names_int, ← names_text]
    constructor
    · rintro (numbers | texts)
      · exact ⟨.int, numbers⟩
      · exact ⟨.text, texts⟩
    · rintro ⟨_ | _, named⟩
      · exact .inl named
      · exact .inr named
  constructor
  · intro format
    obtain ⟨kind, named⟩ := kinds.1 format.ids
    refine ⟨kind, forall_calls.2 fun part entry member => ?_⟩
    rw [suits_call (outline.complete part entry member)]
    refine ⟨format.times part entry member, fun key listed => ?_⟩
    obtain ⟨found, has⟩ := (outline.complete part entry member).2 key (idKeys_subset part listed)
    exact ⟨found, has, named found (mem_idsIn.2 ⟨part, entry, member, key, listed, has⟩)⟩
  · rintro ⟨kind, suits⟩
    rw [forall_calls] at suits
    have each := fun part entry member =>
      (suits_call (outline.complete part entry member) kind).1 (suits part entry member)
    refine ⟨outline, fun part entry member => (each part entry member).1,
      kinds.2 ⟨kind, fun id member => ?_⟩⟩
    obtain ⟨part, entry, inside, key, listed, has⟩ := mem_idsIn.1 member
    obtain ⟨found, same, named⟩ := (each part entry inside).2 key listed
    rw [has, Option.some.injEq] at same
    rwa [same]

/-! ## Files -/

/-- Faults of the content of a file: it is no text, no JSON, not of the format, or it asks for an
update that is refused. A nesting beyond the limit is not among them, nor is anything that could be
wrong with properties. -/
def LoadFault.OfContent : LoadFault → Prop
  | .encoding _ | .format _ => True
  | .json _ error => ∀ container, error ≠ .tooDeep container
  | .refused fault => ∀ cause, fault ≠ .properties cause
  | .notFound | .directory => False

theorem replay_outlined (json : Json) :
    (outlined json).replay = Store.empty.performEach (calls json) := by
  rw [replay_eq_performEach, calls_outlined]

theorem plain_outlined (json : Json) : ∀ call ∈ calls json, call.properties = .none :=
  calls_outlined json ▸ plain_calls (outlined json)

theorem refused_ofContent {json : Json} {fault : UpdateFault}
    (failed : (outlined json).replay = .error fault) : LoadFault.OfContent (.refused fault) := by
  rw [replay_outlined] at failed
  obtain ⟨refusal, rfl⟩ := Store.performEach_refused (plain_outlined json) failed
  intro cause
  rw [Refusal.fault]
  split <;> exact fun same => by cases same

section Content

variable {content : List UInt8} {text : List Char} {json : Json}

theorem ofBytes_error {fault : LoadFault}
    (shallow : ∀ text, Utf8.decode content = .ok text →
      Json.nesting (Utf8.universalNewlines text) ≤ Json.nestingLimit)
    (failed : ofBytes content = .error fault) : fault.OfContent := by
  rw [ofBytes] at failed
  split at failed
  · cases failed
    trivial
  · next text decoded =>
    rw [parse] at failed
    cases parsed : Json.parse (Utf8.universalNewlines text) with
    | error error =>
      rw [parsed] at failed
      cases failed
      rintro container rfl
      exact absurd (shallow text decoded) (Nat.not_le.2 (Json.nestingLimit_lt_of_tooDeep parsed))
    | ok json =>
      rw [parsed] at failed
      cases read : Document.ofJson json with
      | error fault =>
        simp only [read, Except.mapError] at failed
        cases failed
        trivial
      | ok document =>
        obtain ⟨_, rfl⟩ := outline_of_ofJson read
        simp only [read, Except.mapError] at failed
        split at failed
        · next refused =>
          cases failed
          exact refused_ofContent refused
        · cases failed

theorem ofBytes_eq_ok (decoded : Utf8.decode content = .ok text)
    (parsed : Json.parse (Utf8.universalNewlines text) = .ok json) {store : Store} :
    ofBytes content = .ok store ↔
      Outline json ∧ Store.empty.performEach (calls json) = .ok store := by
  rw [ofBytes, decoded]
  simp only [parse, parsed, Except.mapError]
  rw [← replay_outlined]
  cases read : Document.ofJson json with
  | error fault =>
    have outside : ¬Outline json := by
      intro outline
      rw [ofJson_outlined outline] at read
      cases read
    simp [outside]
  | ok document =>
    obtain ⟨outline, rfl⟩ := outline_of_ofJson read
    simp only [outline, true_and]
    split <;> simp_all

end Content

/-- A file whose brackets are not nested too deep is loaded, or has a fault in its content. Where the
content is JSON, it is loaded exactly if the JSON has the format; then each of its entries is
accepted, and the graph is the one that they make of the empty graph, the nodes before the edges. -/
theorem load_accepts {workspace : Workspace} {path : String} {content : List UInt8}
    (found : workspace.read path = .ok content)
    (shallow : ∀ text, Utf8.decode content = .ok text →
      Json.nesting (Utf8.universalNewlines text) ≤ Json.nestingLimit) :
    ((∃ store, load workspace path = .ok store) ∨
        ∃ fault, load workspace path = .error fault ∧ fault.OfContent) ∧
      ∀ text json, Utf8.decode content = .ok text →
        Json.parse (Utf8.universalNewlines text) = .ok json →
        ((∃ store, load workspace path = .ok store) ↔ Format json) ∧
          ∀ store, load workspace path = .ok store →
            store = Store.empty.performAll (calls json) ∧
              Store.empty.accepted (calls json) = calls json := by
  have loaded : load workspace path = ofBytes content := by rw [load, found]
  rw [loaded]
  constructor
  · cases read : ofBytes content with
    | ok store => exact .inl ⟨store, rfl⟩
    | error fault => exact .inr ⟨fault, rfl, ofBytes_error shallow read⟩
  · intro text json decoded parsed
    simp only [ofBytes_eq_ok decoded parsed]
    constructor
    · constructor
      · rintro ⟨store, outline, done⟩
        exact (format_iff outline).2
          ((Store.performEach_empty_iff (plain_outlined json)).1 ⟨store, done⟩)
      · intro format
        obtain ⟨store, done⟩ := (Store.performEach_empty_iff (plain_outlined json)).2
          ((format_iff format.toOutline).1 format)
        exact ⟨store, format.toOutline, done⟩
    · rintro store ⟨_, done⟩
      obtain ⟨all, accepted⟩ := Store.performAll_of_performEach done
      exact ⟨all.symm, accepted⟩

/-- A node updated twice, out of order, and an edge to a node without an entry of its own. The names
are two different halves of pairs, which stand alone. -/
theorem load_accepts_late_update :
    let first : Text := .broken [] ⟨0⟩ []
    let second : Text := .broken [] ⟨1⟩ []
    let json : Json := .object [
      ("nodes", .array [
        .object [("id", .string first), ("time", .int 3), ("type", .null)],
        .object [("id", .string first), ("time", .int 2), ("type", .string "hub")]]),
      ("edges", .array [
        .object [("source", .string first), ("target", .string second), ("time", .int 0)]])]
    let text := json.render .file 0
    let content := Utf8.encode text
    let workspace : Workspace := .ofFiles [(["g.json"], content)] []
    (workspace.read "g.json" = .ok content ∧
      (∀ other, Utf8.decode content = .ok other →
        Json.nesting (Utf8.universalNewlines other) ≤ Json.nestingLimit)) ∧
      (Utf8.decode content = .ok text ∧ Json.parse (Utf8.universalNewlines text) = .ok json) ∧
      ((∃ store, load workspace "g.json" = .ok store) ∨
        ∃ fault, load workspace "g.json" = .error fault ∧ fault.OfContent) ∧
      ((∃ store, load workspace "g.json" = .ok store) ↔ Format json) ∧
      ∀ store, load workspace "g.json" = .ok store →
        store = Store.empty.performAll (calls json) ∧
          Store.empty.accepted (calls json) = calls json := by
  intro first second json text content workspace
  have plain : json.IsPlain := by
    simp [json, Json.IsPlain, Json.ArePlain, Json.FieldsArePlain, Decimal.fits_of_lt]
  have free : json.IsPairFree := by
    have alone : Json.PairFree first ∧ Json.PairFree second := ⟨.singleton _, .singleton _⟩
    simp [json, Json.IsPairFree, Json.ArePairFree, Json.FieldsArePairFree, alone]
  have ascii := Json.ascii_render json plain 0
  have decoded : Utf8.decode content = .ok text := Utf8.decode_encode_ascii ascii
  have lines : Utf8.universalNewlines text = text := Utf8.universalNewlines_ascii ascii
  have parsed : Json.parse (Utf8.universalNewlines text) = .ok json := by
    rw [lines]
    exact Json.parse_render Json.reads_file plain free (by decide)
  have found : workspace.read "g.json" = .ok content := rfl
  have shallow : ∀ other, Utf8.decode content = .ok other →
      Json.nesting (Utf8.universalNewlines other) ≤ Json.nestingLimit := by
    intro other same
    rw [decoded, Except.ok.injEq] at same
    rw [← same, lines]
    decide +kernel
  obtain ⟨either, accepts⟩ := load_accepts found shallow
  exact ⟨⟨found, shallow⟩, ⟨decoded, parsed⟩, either, accepts text json decoded parsed⟩

end GraphFile

end TemporalNetwork
