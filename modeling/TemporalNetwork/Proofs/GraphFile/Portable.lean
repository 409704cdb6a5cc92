import TemporalNetwork.Proofs.Generation.Law
import TemporalNetwork.Proofs.GraphFile.Format
import TemporalNetwork.Proofs.GraphFile.RoundTrip
import TemporalNetwork.Proofs.GraphFile.Writable

/-!
Graphs that go through a file unchanged. A file has no properties and no types of edges, and of the
types of nodes it holds the texts. A graph whose insertions carry nothing else is portable: a graph
that was loaded is, if the types in its file are texts, and a generation leaves it so. Main
statement: what is written of a portable graph, if all of it is, is read back as the same graph.
-/

namespace TemporalNetwork

/-- No type is a text with both halves of a pair side by side, and none is anything else but a text. -/
def Value.IsLabel (type : Value) : Prop := type = .none ∨ ∃ t, Json.PairFree t ∧ type = .text t

/-- An insertion that carries nothing which a file does not hold. -/
def Insertion.Carried : Insertion → Prop
  | .node _ _ type properties => type.IsLabel ∧ properties = .none
  | .edge _ _ _ type properties => type = .none ∧ properties = .none

structure Insertion.Portable (line : Insertion) : Prop where
  named : ∀ id ∈ line.mentions, id.json.IsPairFree
  carried : line.Carried

structure Store.Portable (store : Store) : Prop where
  reached : Reachable Value.IsPlain store
  made : ∃ ledger : Ledger, (∀ line ∈ ledger, line.Portable) ∧ Ledger.Shown store ledger

/-! ## Portable ledgers -/

namespace Ledger

variable {ledger : Ledger} (portable : ∀ line ∈ ledger, line.Portable)
include portable

theorem portable_nodeLines (id : NodeId) :
    ∀ line ∈ ledger.nodeLines id,
      line.type.IsLabel ∧ line.properties = .none := by
  intro line read
  obtain ⟨origin, inside, taken⟩ := List.mem_filterMap.1 read
  have own := (portable origin inside).carried
  cases origin with
  | edge => cases taken
  | node t named type properties =>
    simp only [nodeLine?, Option.ite_none_right_eq_some, Option.some.injEq] at taken
    rw [← taken.2]
    exact own

theorem portable_edgeLines (source target : NodeId) :
    ∀ line ∈ ledger.edgeLines source target, line.type = .none ∧ line.properties = .none := by
  intro line read
  obtain ⟨origin, inside, taken⟩ := List.mem_filterMap.1 read
  have own := (portable origin inside).carried
  cases origin with
  | node => cases taken
  | edge t first second type properties =>
    simp only [edgeLine?, Option.ite_none_right_eq_some, Option.some.injEq] at taken
    rw [← taken.2]
    exact own

theorem isLabel_nodeType (id : NodeId) : (ledger.nodeType id).IsLabel := by
  rw [nodeType, lastType]
  cases last : (((ledger.nodeLines id).map (·.type)).filter fun type =>
      type.kind ≠ .none).getLast? with
  | none => exact .inl rfl
  | some type =>
    obtain ⟨line, read, rfl⟩ :=
      List.mem_map.1 (List.mem_filter.1 (List.mem_of_getLast? last)).1
    exact (portable_nodeLines portable id line read).1

theorem saved_edge (source target : NodeId) :
    (ledger.edge source target).saved = ledger.edge source target := by
  have lines := portable_edgeLines portable source target
  have type : ledger.edgeType source target = .none := by
    rw [edgeType]
    cases first : (ledger.edgeLines source target).head? with
    | none => rfl
    | some line => exact (lines line (List.mem_of_head? first)).1
  have properties := mergeAll_of_forall fun line read => (lines line read).2
  rw [Edge.saved, edge, type, properties]

theorem saved_node (id : NodeId) : (ledger.node id).saved = ledger.node id := by
  have properties := mergeAll_of_forall fun line read => (portable_nodeLines portable id line read).2
  have edges : ((ledger.targets id).map (ledger.edge id)).map Edge.saved =
      (ledger.targets id).map (ledger.edge id) := by
    rw [List.map_map]
    exact List.map_congr_left fun target _ => saved_edge portable id target
  rw [Node.saved, node, edges, properties]

end Ledger

/-! ## Portable graphs -/

theorem Reachable.performAll {carries : Value → Prop} {store : Store}
    (reached : Reachable carries store) {calls : List Call}
    (carried : ∀ call ∈ calls, carries call.properties) :
    Reachable carries (store.performAll calls) := by
  induction calls generalizing store with
  | nil => exact reached
  | cons call rest ih =>
    obtain ⟨own, others⟩ := List.forall_mem_cons.1 carried
    exact ih (.call reached call own) others

namespace Store

variable {store : Store}

theorem portable_empty : Store.empty.Portable where
  reached := .empty
  made := ⟨[], fun _ member => absurd member List.not_mem_nil, Ledger.shown_empty⟩

theorem Portable.saved_eq (portable : store.Portable) : store.saved = store := by
  obtain ⟨ledger, lines, shown⟩ := portable.made
  have nodes : store.nodes.map Node.saved = store.nodes := by
    rw [shown.nodes, List.map_map]
    exact List.map_congr_left fun id _ => Ledger.saved_node lines id
  rw [saved, nodes]

theorem Portable.types (portable : store.Portable) : ∀ node ∈ store.nodes, node.type.IsLabel := by
  obtain ⟨ledger, lines, shown⟩ := portable.made
  rw [shown.nodes]
  exact List.forall_mem_map.2 fun id _ => Ledger.isLabel_nodeType lines id

theorem Portable.named (portable : store.Portable) : ∀ id ∈ store.ids, id.json.IsPairFree := by
  obtain ⟨ledger, lines, shown⟩ := portable.made
  intro id known
  obtain ⟨line, inside, mentioned⟩ := (ledger.mem_ids).1 (shown.ids ▸ known)
  exact (lines line inside).named id mentioned

theorem Portable.pairFree (portable : store.Portable) : store.PairFree where
  ids t known := portable.named (.text t) known
  types node member t own := by
    rcases portable.types node member with none | ⟨s, free, same⟩
    · cases own.symm.trans none
    · cases own.symm.trans same
      exact free

theorem Portable.writable (portable : store.Portable) (whole : store.document.write.fault = none) :
    store.Writable := by
  refine writable_of_write portable.reached.wellFormed (fun node member => ?_) whole
  exact (portable.types node member).imp id fun ⟨t, _, own⟩ => ⟨t, own⟩

end Store

namespace GraphFile

/-- What was written of a portable graph, and is whole, is read back as this graph. -/
theorem ofBytes_portable {store : Store} (portable : store.Portable)
    (whole : store.document.write.fault = none) :
    ofBytes store.document.write.bytes = .ok store := by
  rw [ofBytes_written portable.reached (portable.writable whole) portable.pairFree,
    portable.saved_eq]

/-! ## Loading -/

/-- A node of a file has no type, or null or a text for it. -/
def Typed (entry : Json) : Prop :=
  ∀ found, entry.member? "type" = some found → found = .null ∨ ∃ s, found = .string s

theorem isPairFree_member {entry found : Json} {key : String} (free : entry.IsPairFree)
    (member : entry.member? key = some found) : found.IsPairFree := by
  cases entry with
  | object fields => exact Json.isPairFree_field? free member
  | _ => cases member

theorem isPairFree_entries {json : Json} (free : json.IsPairFree) {part : Section} :
    ∀ entry ∈ entries json part, entry.IsPairFree := by
  rw [entries]
  split
  · next listed found => exact (Json.arePairFree_iff listed).1 (isPairFree_member free found)
  · exact fun _ none => absurd none List.not_mem_nil

theorem isPairFree_of_fieldValue {entry : Json} (free : entry.IsPairFree) {key : String}
    {id : NodeId} (same : fieldValue entry.fields key = id.toValue) : id.json.IsPairFree := by
  cases id with
  | int n => trivial
  | text t =>
    cases found : entry.member? key with
    | none =>
      rw [Json.member?] at found
      rw [fieldValue, found] at same
      cases same
    | some json =>
      rw [fieldValue_of_member found] at same
      have own := isPairFree_member free found
      cases json with
      | string s =>
        cases same
        exact own
      | _ => cases same

theorem fieldValue_typed {entry : Json} (typed : Typed entry) (free : entry.IsPairFree) :
    (fieldValue entry.fields "type").IsLabel := by
  cases found : entry.member? "type" with
  | none =>
    rw [Json.member?] at found
    rw [fieldValue, found]
    exact .inl rfl
  | some json =>
    rw [fieldValue_of_member found]
    rcases typed json found with rfl | ⟨s, rfl⟩
    · exact .inl rfl
    · exact .inr ⟨s, isPairFree_member free found, rfl⟩

theorem portable_of_call {part : Section} {entry : Json} (free : entry.IsPairFree)
    (typed : part = .nodes → Typed entry) {line : Insertion} (same : part.call entry = line.call) :
    line.Portable := by
  cases part with
  | nodes =>
    cases line with
    | node t id type properties =>
      simp only [Section.call, Insertion.call, Call.node.injEq, NodeUpdate.mk.injEq] at same
      obtain ⟨_, named, plain, given⟩ := same
      refine ⟨?_, given ▸ fieldValue_typed (typed rfl) free, plain.symm⟩
      exact List.forall_mem_singleton.2 (isPairFree_of_fieldValue free named)
    | edge => cases same
  | edges =>
    cases line with
    | node => cases same
    | edge t source target type properties =>
      simp only [Section.call, Insertion.call, Call.edge.injEq, EdgeUpdate.mk.injEq] at same
      obtain ⟨_, first, second, plain, given⟩ := same
      refine ⟨?_, given.symm, plain.symm⟩
      rw [Insertion.mentions, List.forall_mem_cons, List.forall_mem_singleton]
      exact ⟨isPairFree_of_fieldValue free first, isPairFree_of_fieldValue free second⟩

/-- The graph of a file whose types are texts is portable. -/
theorem portable_ofBytes {content : List UInt8} {text : List Char} {json : Json} {store : Store}
    (decoded : Utf8.decode content = .ok text)
    (parsed : Json.parse (Utf8.universalNewlines text) = .ok json)
    (typed : ∀ entry ∈ entries json .nodes, Typed entry) (loaded : ofBytes content = .ok store) :
    store.Portable := by
  obtain ⟨_, done⟩ := (ofBytes_eq_ok decoded parsed).1 loaded
  have plain := plain_outlined json
  obtain ⟨all, _⟩ := Store.performAll_of_performEach done
  obtain ⟨lines, same, _, made⟩ := Store.lines_of_performEach Store.wellFormed_empty plain done
  have portable : ∀ call ∈ calls json, ∀ line : Insertion, call = line.call → line.Portable :=
    forall_calls.2 fun part entry member line =>
      portable_of_call (isPairFree_entries (Json.isPairFree_parse parsed) entry member)
        fun nodes => typed entry (nodes ▸ member)
  constructor
  · rw [← all]
    exact Reachable.empty.performAll fun call member => .inl (plain call member)
  · refine ⟨lines, fun line member => ?_, ?_⟩
    · exact portable line.call (same ▸ List.mem_map_of_mem member) line rfl
    · rw [made]
      exact Ledger.shown_insertAll Ledger.shown_empty lines

end GraphFile

/-! ## Generations -/

namespace Store

open Generation

variable {store : Store} {n : Nat} {p : Probability} {seed : Seed} {request : Request}

theorem carried_insertions (p : Probability) (stream : Nat → Draw) (guarded : GuardedStore)
    (n made : Nat) : ∀ line ∈ insertions p stream guarded n made, line.Carried := by
  rw [insertions, List.forall_mem_append, List.forall_mem_map, List.forall_mem_map]
  exact ⟨fun _ _ => ⟨.inl rfl, rfl⟩, fun _ _ => ⟨rfl, rfl⟩⟩

-- New ids are numbers and numerals.
theorem isPairFree_take (n : Nat) (allocator : Allocator) :
    ∀ id ∈ allocator.take n, id.json.IsPairFree := by
  induction n generalizing allocator with
  | zero => exact fun _ none => absurd none List.not_mem_nil
  | succ n ih =>
    refine List.forall_mem_cons.2 ⟨?_, ih _⟩
    cases allocator with
    | counting last => trivial
    | naming used k => exact Json.pairFree_whole _

theorem Portable.insertions (portable : store.Portable) (p : Probability) (stream : Nat → Draw)
    (n made : Nat) :
    ∀ line ∈ insertions p stream (.ofStore store) n made, line.Portable := by
  intro line member
  refine ⟨fun id mentioned => ?_, carried_insertions p stream _ n made line member⟩
  have valid : (GuardedStore.ofStore store).store.WellFormed := portable.reached.wellFormed
  have inside : id ∈ members (.ofStore store) n := by
    rw [← ids_grown p stream valid made]
    exact (mem_ids_insertAll _ _).2 (.inr ⟨line, member, mentioned⟩)
  rcases List.mem_append.1 inside with old | new
  · exact portable.named id old
  · exact isPairFree_take n _ id (List.mem_of_mem_filter new)

theorem Portable.generate (portable : store.Portable) (asks : request.Asks n p seed)
    (resources : Resources) :
    ∃ grown : Store, grown.Portable ∧
      (Generation.generate resources .lenient (.ofStore store) request).store = .ofStore grown := by
  obtain ⟨ledger, carried, shown⟩ := portable.made
  have valid := portable.reached.wellFormed
  have start : Reachable Value.IsPlain (GuardedStore.ofStore store).store := portable.reached
  have reached := start.generation resources .lenient request
  rw [run_ofStore valid asks.count asks.probability (asks.draws resources) .lenient nofun] at reached
  rw [generate_ofStore valid asks resources .lenient nofun nofun]
  refine ⟨_, ⟨reached, _, ?_, Ledger.shown_insertAll shown _⟩, rfl⟩
  rw [List.forall_mem_append]
  exact ⟨carried, portable.insertions p _ n _⟩

/-- Where all of the grown graph can be written, all that is said of the generation can be logged. -/
theorem Portable.generate_eq (portable : store.Portable) (asks : request.Asks n p seed)
    (fits : request.probability.fits = true) {resources : Resources} {grown : Store}
    (became : (Generation.generate resources .lenient (.ofStore store) request).store =
      .ofStore grown)
    (after : grown.Portable) (whole : grown.document.write.fault = none) (other : Resources)
    (logging : Logging) :
    Generation.generate other logging (.ofStore store) request =
      Generation.generate resources .lenient (.ofStore store) request := by
  have writable := after.writable whole
  obtain ⟨ledger, _, shown⟩ := after.made
  apply Generation.generate_irrespective portable.reached.wellFormed asks fits resources other logging
  · rw [became]
    exact writable.ids
  · rw [became]
    exact fun t last => writable.latest after.reached.wellFormed shown last

end Store

end TemporalNetwork
