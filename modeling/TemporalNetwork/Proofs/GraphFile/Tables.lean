import TemporalNetwork.Proofs.GraphFile.RoundTrip
import TemporalNetwork.Store.Table

/-!
The tables of a graph beside its file. The tables walk through the records of the graph; the file is
made of its answers, which are asked for by the ids and the pairs that it lists. Main statement: both
tables can be told from the entries of the file.
-/

namespace TemporalNetwork

def NodeRow.values (row : NodeRow) : List Value :=
  [row.id.toValue, .int row.firstSeen, .int row.updates, row.type]

def EdgeRow.values (row : EdgeRow) : List Value :=
  [.int row.time, row.source.toValue, row.target.toValue]

def EdgeRow.entry (row : EdgeRow) : GraphFile.EdgeEntry :=
  { source := row.source.toValue, target := row.target.toValue, time := .int row.time }

namespace GraphFile

/-- One update of a node, as an entry of a file tells it. -/
structure Sighting where
  id : NodeId
  time : Nat
  type : Value

def Sighting.entry (sighting : Sighting) : NodeEntry :=
  { id := sighting.id.toValue, time := .int sighting.time, type := sighting.type }

/-- The table of nodes, as the entries of a file tell it: one row for each id in the order in which
the ids come up. -/
structure TellsNodes (entries : List Sighting) (table : Table) (rows : List NodeRow) : Prop where
  columns : table.columns = ["id", "first_seen", "updates", "node_type"]
  cells : table.rows = rows.map NodeRow.values
  ids : rows.map (·.id) = (entries.map (·.id)).eraseDups
  firstSeen : ∀ row ∈ rows,
    (entries.find? (·.id = row.id)).map (·.time) = some row.firstSeen
  updates : ∀ row ∈ rows, row.updates = entries.countP (·.id = row.id)
  type : ∀ row ∈ rows, ∀ entry ∈ entries, entry.id = row.id → row.type = entry.type

/-- The table of edges, as the entries of a file tell it: all of them in the order of time, and those
of one time in the order of the file. -/
structure TellsEdges (entries : List EdgeRow) (table : Table) (rows : List EdgeRow) : Prop where
  columns : table.columns = ["time", "source", "target"]
  cells : table.rows = rows.map EdgeRow.values
  complete : rows.Perm entries
  ordered : rows.Pairwise fun row later => row.time ≤ later.time
  stable : ∀ t, rows.filter (·.time = t) = entries.filter (·.time = t)

end GraphFile

/-! ## Sorting rows by a number -/

section

variable {α : Type} (key : α → Nat)

theorem lessEq_trans (row other last : α) (low : decide (key row ≤ key other) = true)
    (high : decide (key other ≤ key last) = true) : decide (key row ≤ key last) = true :=
  decide_eq_true (Nat.le_trans (of_decide_eq_true low) (of_decide_eq_true high))

theorem lessEq_total (row other : α) :
    (decide (key row ≤ key other) || decide (key other ≤ key row)) = true := by
  simpa using Nat.le_total (key row) (key other)

theorem pairwise_mergeSort_key (rows : List α) :
    (rows.mergeSort fun row other => key row ≤ key other).Pairwise fun row other =>
      key row ≤ key other :=
  (List.pairwise_mergeSort (lessEq_trans key) (lessEq_total key) rows).imp of_decide_eq_true

-- Rows of one number keep their order: they are in order already, so sorting takes them over.
theorem filter_mergeSort_key (rows : List α) (t : Nat) :
    (rows.mergeSort fun row other => key row ≤ key other).filter (fun row => key row = t) =
      rows.filter fun row => key row = t := by
  have alike : (rows.filter fun row => key row = t).Pairwise fun row other =>
      decide (key row ≤ key other) = true := by
    apply List.pairwise_of_forall_mem_list
    intro row member other also
    have first : key row = t := of_decide_eq_true (List.mem_filter.1 member).2
    have second : key other = t := of_decide_eq_true (List.mem_filter.1 also).2
    exact decide_eq_true (Nat.le_of_eq (first.trans second.symm))
  have kept := List.sublist_mergeSort (lessEq_trans key) (lessEq_total key) alike
    List.filter_sublist
  have inside := kept.filter fun row => decide (key row = t)
  rw [List.filter_filter] at inside
  simp only [Bool.and_self] at inside
  have many := ((List.mergeSort_perm rows fun row other => key row ≤ key other).filter
    fun row => decide (key row = t)).length_eq
  exact (inside.eq_of_length many.symm).symm

end

/-! ## Types as a column -/

namespace Column

-- There are no numbers, so there is nothing to bring into one form.
theorem ofTypes_eq {types : List Value}
    (labels : ∀ type ∈ types, type = .none ∨ ∃ s, type = .text s) : ofTypes types = types := by
  have widened : types.map widen = types := by
    conv_rhs => rw [← List.map_id types]
    apply List.map_congr_left
    intro type member
    rcases labels type member with rfl | ⟨s, rfl⟩ <;> rfl
  have kept : types.map dropNan = types := by
    conv_rhs => rw [← List.map_id types]
    apply List.map_congr_left
    intro type member
    rcases labels type member with rfl | ⟨s, rfl⟩ <;> rfl
  rw [ofTypes, numbers, widened, ite_self, kept]

end Column

/-! ## Entries and rows -/

open GraphFile

def Node.sightings (node : Node) : List Sighting :=
  node.history.times.map fun time => { id := node.id, time, type := node.type }

def Node.row (node : Node) : NodeRow :=
  { id := node.id, firstSeen := node.history.first, updates := node.history.times.length
    type := node.type }

namespace Store

variable {store : Store}

def sightings (store : Store) : List Sighting := store.nodes.flatMap Node.sightings

-- The answers that make the file are the records that make the tables.
theorem document_eq (valid : store.WellFormed) :
    store.document =
      { nodes := store.sightings.map Sighting.entry
        edges := store.edgeUpdates.map EdgeRow.entry } := by
  rw [document_eq_records valid]
  simp only [records, sightings, edgeUpdates, List.map_flatMap, Node.sightings, List.map_map]
  rfl

-- The entries of a node are the ones under its id, because no other node has it.
theorem filter_sightings (valid : store.WellFormed) {node : Node} (inside : node ∈ store.nodes) :
    store.sightings.filter (·.id = node.id) = node.sightings := by
  have group : ∀ other : Node, other.sightings.filter (·.id = node.id) =
      if other.id = node.id then other.sightings else [] := by
    intro other
    rw [Node.sightings, List.filter_map]
    by_cases same : other.id = node.id <;> simp [same, Function.comp_def]
  rw [sightings, List.filter_flatMap]
  simp only [group]
  exact flatMap_only Node.id valid.distinct inside _

theorem eraseDups_sightings (valid : store.WellFormed) :
    (store.sightings.map (·.id)).eraseDups = store.ids := by
  rw [sightings, List.map_flatMap]
  apply Ledger.eraseDups_groups Node.id
  · simp [Node.sightings, History.times_ne_nil]
  · intro node _ id member
    simp only [Node.sightings, List.map_map, List.mem_map, Function.comp_apply] at member
    obtain ⟨_, _, same⟩ := member
    exact same.symm
  · exact valid.distinct

theorem tellsNodes (valid : store.WellFormed) (writable : store.Writable) :
    TellsNodes store.sightings store.nodeTable store.nodeRows where
  columns := rfl
  cells := by
    have types : Column.ofTypes (store.nodeRows.map (·.type)) = store.nodeRows.map (·.type) := by
      apply Column.ofTypes_eq
      simpa [nodeRows] using writable.types
    rw [nodeTable]
    simp only [types, List.zipWith_map_right, List.zipWith_self]
    rfl
  ids := by
    rw [eraseDups_sightings valid]
    simp [nodeRows, ids]
  firstSeen := by
    intro row member
    obtain ⟨node, inside, rfl⟩ := List.mem_map.1 member
    rw [← List.head?_filter, filter_sightings valid inside]
    rfl
  updates := by
    intro row member
    obtain ⟨node, inside, rfl⟩ := List.mem_map.1 member
    rw [List.countP_eq_length_filter, filter_sightings valid inside, Node.sightings,
      List.length_map]
  type := by
    intro row member entry recorded same
    obtain ⟨node, inside, rfl⟩ := List.mem_map.1 member
    have own : entry ∈ node.sightings := by
      rw [← filter_sightings valid inside]
      exact List.mem_filter.2 ⟨recorded, decide_eq_true same⟩
    obtain ⟨_, _, rfl⟩ := List.mem_map.1 own
    rfl

theorem tellsEdges (store : Store) :
    TellsEdges store.edgeUpdates store.edgeTable store.edgeRows where
  columns := rfl
  cells := rfl
  complete := List.mergeSort_perm _ _
  ordered := pairwise_mergeSort_key EdgeRow.time _
  stable := filter_mergeSort_key EdgeRow.time _

end Store

namespace GraphFile

variable {store : Store}

/-- The tables and the file of a graph describe the same updates: all of the document is written, and
its entries tell the rows of both tables. The entries are read back from the file as they are, unless
both halves of a pair stand side by side in a text and read as a character. -/
theorem tables_saved {carries : Value → Prop} (reached : Reachable carries store)
    (writable : store.Writable) :
    store.document.write.fault = none ∧
      (store.PairFree → ∃ text, Utf8.decode store.document.write.bytes = .ok text ∧
        parse (Utf8.universalNewlines text) = .ok store.document) ∧
      ∃ (sightings : List Sighting) (updates : List EdgeRow),
        store.document =
          { nodes := sightings.map Sighting.entry, edges := updates.map EdgeRow.entry } ∧
        (∃ rows, TellsNodes sightings store.nodeTable rows) ∧
        ∃ rows, TellsEdges updates store.edgeTable rows := by
  have valid := reached.wellFormed
  refine ⟨?_, fun free => ?_, store.sightings, store.edgeUpdates, Store.document_eq valid,
    ⟨_, store.tellsNodes valid writable⟩, ⟨_, store.tellsEdges⟩⟩
  · exact congrArg Written.fault (Store.write_document valid writable)
  · obtain ⟨decoded, parsed⟩ := parse_written valid writable free
    refine ⟨_, decoded, ?_⟩
    simp only [parse, parsed, Store.ofJson_json valid writable, Except.mapError]

/-- An update back in time, a node with itself, and a node whose type comes after its first
update. -/
theorem tables_saved_back_in_time :
    let link (t source target : Int) : Call := .edge
      { time := .int t, source := .int source, target := .int target, properties := .none
        type := .none }
    let update : Call := .node
      { time := .int 2, id := .int 8, properties := .none, type := .text "hub" }
    let store := Store.empty.performAll [link 7 8 5, link 2 8 8, update]
    (Reachable (fun _ => True) store ∧ store.Writable) ∧
      store.document.write.fault = none ∧
      (store.PairFree → ∃ text, Utf8.decode store.document.write.bytes = .ok text ∧
        parse (Utf8.universalNewlines text) = .ok store.document) ∧
      ∃ (sightings : List Sighting) (updates : List EdgeRow),
        store.document =
          { nodes := sightings.map Sighting.entry, edges := updates.map EdgeRow.entry } ∧
        (∃ rows, TellsNodes sightings store.nodeTable rows) ∧
        ∃ rows, TellsEdges updates store.edgeTable rows := by
  intro link update store
  have reached : Reachable (fun _ => True) store :=
    .call (.call (.call .empty (link 7 8 5) trivial) (link 2 8 8) trivial) update trivial
  have built : store = {
      nodes := [
        { id := .int 8, history := (History.start 7).record 2, type := .text "hub"
          properties := []
          edges := [
            { target := .int 5, history := .start 7, type := .none, properties := [] },
            { target := .int 8, history := .start 2, type := .none, properties := [] }] },
        { id := .int 5, history := .start 7, type := .none, properties := [], edges := [] }]
      kind? := some .int
      earliest := some 2
      latest := some 7 } := rfl
  have writable : store.Writable := by
    constructor
    · simp [built]
    · simp [built, Store.ids, NodeId.fits, NodeId.toValue, Value.fits, Decimal.fits_of_lt]
    · simp [built, History.start, History.record, History.times, Decimal.fits_of_lt]
    · simp only [built, Store.edgeList, History.start, History.times]
      intro source edge member
      simp only [List.flatMap_cons, List.map_cons, List.map_nil, List.flatMap_nil, List.append_nil,
        List.mem_cons, Prod.mk.injEq, List.not_mem_nil, or_false] at member
      obtain ⟨rfl, rfl⟩ | ⟨rfl, rfl⟩ := member <;> simp [Decimal.fits_of_lt]
  exact ⟨⟨reached, writable⟩, tables_saved reached writable⟩

end GraphFile

end TemporalNetwork
