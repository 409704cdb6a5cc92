import TemporalNetwork.Generation.IdStream
import TemporalNetwork.Proofs.Generation.Continuation
import TemporalNetwork.Proofs.Reachable

/-!
A stream of ids, and asking for them one by one. A stream reads its graph once and goes on by itself.
Who asks for one id at a time lets a node with it come, and asks again in the graph that has grown,
after the id that came last; among texts that id need not be the greatest one of the graph. Main
statement: both come to the same ids.
-/

namespace TemporalNetwork

namespace Store

/-! ## The greatest id -/

/-- A value is the greatest id of a graph; it is none where there are no ids. -/
inductive Last (store : Store) : Value → Prop
  | none (bare : store.ids = []) : Last store .none
  | id {id : NodeId} (inside : id ∈ store.ids) (bound : ∀ other ∈ store.ids, other.lessEq id) :
    Last store id.toValue

def Leads (store : Store) (last : Value) : Prop :=
  Successors.after store last = .ok (.allocated (.ofStore store))

theorem Last.leads {store : Store} {last : Value} (greatest : store.Last last) :
    store.Leads last := by
  cases greatest with
  | none bare =>
    rw [Leads, Allocator.ofStore, bare]
    rfl
  | @id id inside bound =>
    rw [Leads, Successors.after_toValue, Allocator.ofStore]
    cases found : NodeId.greatest? store.ids with
    | none =>
      cases nodes : store.ids with
      | nil => simp [nodes] at inside
      | cons first rest => simp [nodes, NodeId.greatest?_cons] at found
    | some other =>
      have below := NodeId.lessEq_greatest? found inside
      rw [NodeId.lessEq_antisymm below (bound other (NodeId.greatest?_mem found))]

theorem Leads.nextId {store : Store} {last : Value} (leads : store.Leads last) :
    Successors.nextId store last = .ok (Allocator.ofStore store).next.1.toValue := by
  rw [Successors.nextId, leads]
  rfl

end Store

/-! ## A stream -/

theorem Successors.take_allocated (n : Nat) (allocator : Allocator) :
    ((allocated allocator).take n).1 = (allocator.take n).map NodeId.toValue := by
  induction n generalizing allocator with
  | zero => rfl
  | succ n ih =>
    rw [take, Allocator.take, List.map_cons, ← ih]
    rfl

theorem IdStream.take_unread {store : Store} {last : Value} (leads : store.Leads last) (n : Nat) :
    ((IdStream.unread last none).take store n).1 =
      .ok (((Allocator.ofStore store).take n).map NodeId.toValue) := by
  rw [take, Option.getD_none, leads, ← Successors.take_allocated]

/-! ## One by one -/

structure Draft where
  time : Nat
  type : Value
  properties : Value
  merges : properties.Merges

namespace Draft

def update (draft : Draft) (id : Value) : NodeUpdate :=
  { time := .int draft.time, id, properties := draft.properties, type := draft.type }

def insertion (draft : Draft) (id : NodeId) : Insertion :=
  .node draft.time id draft.type draft.properties

theorem addNode_eq {store : Store} {id : NodeId} (admitted : store.Admits id) (draft : Draft) :
    store.addNode (draft.update id.toValue) = (store.insert (draft.insertion id), none) :=
  Store.perform_merges (show store.Accepts (draft.insertion id) from admitted) draft.merges

end Draft

namespace Store

/-- Asks for the id after the last one, lets a node with it come, and asks again in the graph as it
is then. Gives the ids and the graph with all of them, unless an id has no successor or a node is
refused. -/
def allocateEach : List Draft → Store → Value → Option (List Value × Store)
  | [], store, _ => some ([], store)
  | draft :: drafts, store, last =>
    match Successors.nextId store last with
    | .error _ => none
    | .ok id =>
      match store.addNode (draft.update id) with
      | (_, some _) => none
      | (grown, none) => (allocateEach drafts grown id).map fun (ids, final) => (id :: ids, final)

/-- Takes one id of a stream after the other, and lets a node with each of them come before it takes
the next one. -/
def drawEach : List Draft → Store → IdStream → Option (List Value × Store)
  | [], store, _ => some ([], store)
  | draft :: drafts, store, stream =>
    match stream.take store 1 with
    | (.ok [id], rest) =>
      match store.addNode (draft.update id) with
      | (_, some _) => none
      | (grown, none) => (drawEach drafts grown rest).map fun (ids, final) => (id :: ids, final)
    | _ => none

variable {store : Store}

def enrolled (store : Store) (draft : Draft) : Store :=
  store.insert (draft.insertion (Allocator.ofStore store).next.1)

section Enrolled

variable (valid : store.WellFormed) (draft : Draft)
include valid

theorem addNode_next :
    store.addNode (draft.update (Allocator.ofStore store).next.1.toValue) =
      (store.enrolled draft, none) :=
  draft.addNode_eq ((Allocator.beyond_ofStore valid).admits valid)

theorem wellFormed_enrolled : (store.enrolled draft).WellFormed :=
  wellFormed_insert valid
    (show store.Accepts (draft.insertion _) from (Allocator.beyond_ofStore valid).admits valid)

theorem ids_enrolled :
    (store.enrolled draft).ids = store.ids ++ [(Allocator.ofStore store).next.1] :=
  store.ids_insert_node draft.time (Allocator.beyond_ofStore valid).next_not_mem draft.type
    draft.properties

-- The id that came need not be the greatest of the texts, but what follows it is the same.
theorem leads_enrolled :
    (store.enrolled draft).Leads (Allocator.ofStore store).next.1.toValue := by
  rw [Leads, Successors.after_toValue,
    Allocator.after_next valid (wellFormed_enrolled valid draft) (ids_enrolled valid draft)]

end Enrolled

theorem allocateEach_eq (valid : store.WellFormed) {last : Value} (leads : store.Leads last)
    (drafts : List Draft) :
    ∃ grown : Store,
      allocateEach drafts store last =
        some (((Allocator.ofStore store).take drafts.length).map NodeId.toValue, grown) ∧
      grown.ids = store.ids ++ (Allocator.ofStore store).take drafts.length := by
  induction drafts generalizing store last with
  | nil => exact ⟨store, rfl, (List.append_nil _).symm⟩
  | cons draft drafts ih =>
    have also := wellFormed_enrolled valid draft
    have next := ids_enrolled valid draft
    have whole : (Allocator.ofStore store).take (drafts.length + 1) =
        (Allocator.ofStore store).next.1 ::
          (Allocator.ofStore (store.enrolled draft)).take drafts.length :=
      Generation.newIds_succ valid also next drafts.length
    obtain ⟨grown, rest, ids⟩ := ih also (leads_enrolled valid draft)
    refine ⟨grown, ?_, ?_⟩
    · simp only [allocateEach, leads.nextId, addNode_next valid, rest, List.length_cons, whole]
      rfl
    · rw [ids, next, List.length_cons, whole, List.append_assoc]
      rfl

/-- A running stream gives what is asked for one by one, as long as the same ids are open to it as to
an allocator that is started anew. -/
theorem drawEach_running (valid : store.WellFormed) {last : Value} (leads : store.Leads last)
    {allocator : Allocator} (same : ∀ id, allocator.Open id ↔ (Allocator.ofStore store).Open id)
    (drafts : List Draft) :
    drawEach drafts store (.running (.allocated allocator)) = allocateEach drafts store last := by
  induction drafts generalizing store last allocator with
  | nil => rfl
  | cons draft drafts ih =>
    have also := wellFormed_enrolled valid draft
    have next := ids_enrolled valid draft
    have first := Allocator.next_congr same
    have later : ∀ id, allocator.next.2.Open id ↔
        (Allocator.ofStore (store.enrolled draft)).Open id := by
      intro id
      rw [Allocator.open_ofStore_next valid also next, Allocator.open_next_iff,
        Allocator.open_next_iff, same, first]
    have taken : (IdStream.running (.allocated allocator)).take store 1 =
        (.ok [(Allocator.ofStore store).next.1.toValue],
          .running (.allocated allocator.next.2)) := by
      rw [← first]
      rfl
    simp only [drawEach, allocateEach, leads.nextId, taken, addNode_next valid,
      ih also (leads_enrolled valid draft) later]

/-- The ids of a stream are those that are asked for one by one, whenever the nodes come and whatever
they carry, and whether the stream is read in one go or beside the graph that grows. The nodes are
all let in, and they are what the graph has more. -/
theorem drawEach_eq_allocateEach {carries : Value → Prop} (reached : Reachable carries store)
    {last : Value} (greatest : store.Last last) (drafts : List Draft) :
    ∃ ids grown, ((IdStream.unread last none).take store drafts.length).1 = .ok ids ∧
      drawEach drafts store (.unread last none) = some (ids, grown) ∧
      allocateEach drafts store last = some (ids, grown) ∧ ids.length = drafts.length ∧
      grown.ids.map NodeId.toValue = store.ids.map NodeId.toValue ++ ids := by
  have valid := reached.wellFormed
  have leads : Successors.after store last = _ := greatest.leads
  obtain ⟨grown, asked, ids⟩ := allocateEach_eq valid leads drafts
  -- The first id that is taken makes the stream read the graph, and so does a stream that runs.
  have opened : drawEach drafts store (.unread last none) =
      drawEach drafts store (.running (.allocated (.ofStore store))) := by
    cases drafts with
    | nil => rfl
    | cons draft drafts => simp only [drawEach, IdStream.take, Option.getD_none, leads]
  refine ⟨_, grown, IdStream.take_unread leads drafts.length, ?_, asked, ?_, ?_⟩
  · rw [opened, drawEach_running valid leads (fun _ => Iff.rfl), asked]
  · rw [List.length_map, Allocator.take_length]
  · rw [ids, List.map_append]

/-- Among four texts, of which two are numerals from four on, five comes first, then seven and then
eight. The greatest text is none of them: it is the same at the end as at the beginning. -/
theorem drawEach_eq_allocateEach_among_numerals :
    let node (s : String) : Call := .node
      { time := .int 1, id := .text s, properties := .none, type := .none }
    let store := ((((Store.empty.perform (node "b")).1.perform (node "4")).1.perform
      (node "03")).1.perform (node "6")).1
    let draft : Draft := { time := 9, type := .none, properties := .none, merges := .inl rfl }
    (Reachable (fun _ => True) store ∧ store.Last (.text "b")) ∧
      ((IdStream.unread (.text "b") none).take store 3).1 =
        .ok [.text "5", .text "7", .text "8"] ∧
      ∃ ids grown, ((IdStream.unread (.text "b") none).take store 3).1 = .ok ids ∧
        drawEach [draft, draft, draft] store (.unread (.text "b") none) = some (ids, grown) ∧
        allocateEach [draft, draft, draft] store (.text "b") = some (ids, grown) ∧
        ids.length = 3 ∧
        grown.ids.map NodeId.toValue = store.ids.map NodeId.toValue ++ ids := by
  intro node store draft
  have reached : Reachable (fun _ => True) store :=
    .call (.call (.call (.call .empty (node "b") trivial) (node "4") trivial) (node "03") trivial)
      (node "6") trivial
  have greatest : store.Last (NodeId.text "b").toValue := .id (by decide) (by decide)
  have given : (Allocator.ofStore store).take 3 = [.text "5", .text "7", .text "8"] := by
    decide +kernel
  refine ⟨⟨reached, greatest⟩, ?_, drawEach_eq_allocateEach reached greatest [draft, draft, draft]⟩
  exact (IdStream.take_unread greatest.leads 3).trans (by rw [given]; rfl)

end Store

end TemporalNetwork
