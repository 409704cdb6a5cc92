import TemporalNetwork.Proofs.GraphFile.Replay
import TemporalNetwork.Proofs.Store.CallLog

/-!
Calls that are all accepted. A document is replayed by one call for each of its entries, and the
first that fails ends the replay. Main statement: on the empty graph none fails exactly if every call
has a time and ids, and all ids are of one kind; each call is checked against the graph as it is
then, but no check depends on it beyond the kind.
-/

namespace TemporalNetwork

namespace Store

/-- Makes calls one by one, up to the first that fails. -/
def performEach (store : Store) : List Call → Except UpdateFault Store
  | [] => .ok store
  | call :: rest =>
    match store.perform call with
    | (after, none) => performEach after rest
    | (_, some fault) => .error fault

variable {store after : Store} {calls : List Call}

theorem performEach_append (store : Store) (first second : List Call) :
    store.performEach (first ++ second) =
      match store.performEach first with
      | .error fault => .error fault
      | .ok after => after.performEach second := by
  induction first generalizing store with
  | nil => rfl
  | cons call rest ih =>
    rw [List.cons_append, performEach, performEach]
    cases store.perform call with
    | mk next fault =>
      cases fault with
      | none => exact ih next
      | some fault => rfl

-- Where no call fails, all of them are made.
theorem performAll_of_performEach (done : store.performEach calls = .ok after) :
    store.performAll calls = after ∧ store.accepted calls = calls := by
  induction calls generalizing store with
  | nil =>
    cases done
    exact ⟨rfl, rfl⟩
  | cons call rest ih =>
    rw [performEach] at done
    split at done
    · next next performed =>
      obtain ⟨all, accepted⟩ := ih done
      constructor
      · simpa only [performAll, List.foldl_cons, performed] using all
      · simp only [Store.accepted, performed, accepted]
    · cases done

theorem performEach_refused (plain : ∀ call ∈ calls, call.properties = .none) {fault : UpdateFault}
    (failed : store.performEach calls = .error fault) :
    ∃ refusal : Refusal, fault = refusal.fault := by
  induction calls generalizing store with
  | nil => cases failed
  | cons call rest ih =>
    have others := fun other member => plain other (List.mem_cons_of_mem call member)
    rw [performEach] at failed
    rcases store.perform_cases call with ⟨refusal, refused⟩ | ⟨line, same, accepted, _⟩
    · rw [refused] at failed
      exact ⟨refusal, (Except.error.inj failed).symm⟩
    · have own := plain call List.mem_cons_self
      rw [same] at own failed
      rw [perform_plain accepted (.inl own)] at failed
      exact ih others failed

/-! ## One kind of ids -/

theorem mem_ids_insertAll (store : Store) (lines : List Insertion) {id : NodeId} :
    id ∈ (store.insertAll lines).ids ↔ id ∈ store.ids ∨ ∃ line ∈ lines, id ∈ line.mentions := by
  induction lines generalizing store with
  | nil => simp [insertAll]
  | cons line rest ih =>
    rw [insertAll_cons, ih, ids_insert, mem_joinIds, or_assoc]
    simp

-- Each call that is made is a line, and the graph after it is well formed again.
theorem lines_of_performEach (valid : store.WellFormed)
    (plain : ∀ call ∈ calls, call.properties = .none)
    (done : store.performEach calls = .ok after) :
    ∃ lines : List Insertion, calls = lines.map Insertion.call ∧ after.WellFormed ∧
      after = store.insertAll lines := by
  induction calls generalizing store with
  | nil =>
    cases done
    exact ⟨[], rfl, valid, rfl⟩
  | cons call rest ih =>
    have others := fun other member => plain other (List.mem_cons_of_mem call member)
    rw [performEach] at done
    rcases store.perform_cases call with ⟨refusal, refused⟩ | ⟨line, same, accepted, _⟩
    · rw [refused] at done
      cases done
    · have own := plain call List.mem_cons_self
      rw [same] at own done
      rw [perform_plain accepted (.inl own)] at done
      obtain ⟨lines, agree, kept, final⟩ := ih (wellFormed_insert valid accepted) others done
      exact ⟨line :: lines, by rw [same, agree]; rfl, kept, final⟩

theorem performEach_of_alike {kind : NodeId.Kind} (valid : store.WellFormed)
    (alike : ∀ id ∈ store.ids, id.kind = kind) {lines : List Insertion}
    (plain : ∀ line ∈ lines, line.call.properties = .none)
    (mentioned : ∀ line ∈ lines, ∀ id ∈ line.mentions, id.kind = kind) :
    store.performEach (lines.map Insertion.call) = .ok (store.insertAll lines) := by
  induction lines generalizing store with
  | nil => rfl
  | cons line rest ih =>
    have own := mentioned line List.mem_cons_self
    have performed := perform_plain (accepts_of_kind valid alike own)
      (.inl (plain line List.mem_cons_self))
    obtain ⟨inserted, still⟩ := insert_alike valid alike own
    rw [List.map_cons, performEach, performed]
    exact ih inserted still (fun other member => plain other (List.mem_cons_of_mem line member))
      fun other member => mentioned other (List.mem_cons_of_mem line member)

def Suits (kind : NodeId.Kind) (call : Call) : Prop :=
  ∃ line : Insertion, call = line.call ∧ ∀ id ∈ line.mentions, id.kind = kind

theorem exists_lines {kind : NodeId.Kind} (suits : ∀ call ∈ calls, Suits kind call) :
    ∃ lines : List Insertion, calls = lines.map Insertion.call ∧
      ∀ line ∈ lines, ∀ id ∈ line.mentions, id.kind = kind := by
  induction calls with
  | nil => exact ⟨[], rfl, fun line member => by cases member⟩
  | cons call rest ih =>
    obtain ⟨line, rfl, own⟩ := suits call List.mem_cons_self
    obtain ⟨lines, rfl, others⟩ := ih fun other member =>
      suits other (List.mem_cons_of_mem line.call member)
    exact ⟨line :: lines, rfl, List.forall_mem_cons.2 ⟨own, others⟩⟩

/-- On the empty graph no call fails exactly if all of them suit one kind of ids. -/
theorem performEach_empty_iff (plain : ∀ call ∈ calls, call.properties = .none) :
    (∃ after, Store.empty.performEach calls = .ok after) ↔
      ∃ kind, ∀ call ∈ calls, Suits kind call := by
  constructor
  · rintro ⟨after, done⟩
    obtain ⟨lines, rfl, valid, same⟩ := lines_of_performEach wellFormed_empty plain done
    have mentioned : ∀ line ∈ lines, ∀ id ∈ line.mentions, id ∈ after.ids := by
      intro line member id inside
      rw [same, mem_ids_insertAll]
      exact .inr ⟨line, member, inside⟩
    obtain ⟨kind, alike⟩ := exists_kind valid
    refine ⟨kind, List.forall_mem_map.2 fun line member => ⟨line, rfl, ?_⟩⟩
    exact fun id inside => alike id (mentioned line member id inside)
  · rintro ⟨kind, suits⟩
    obtain ⟨lines, rfl, mentioned⟩ := exists_lines suits
    have bare : ∀ id ∈ Store.empty.ids, id.kind = kind := fun _ member =>
      absurd member List.not_mem_nil
    exact ⟨_, performEach_of_alike wellFormed_empty bare
      (fun line member => plain _ (List.mem_map_of_mem member)) mentioned⟩

end Store

namespace GraphFile

/-! ## A document by its calls -/

def Document.calls (document : Document) : List Call :=
  document.nodes.map (fun entry => Call.node entry.update) ++
    document.edges.map fun entry => Call.edge entry.update

theorem replayNodes_eq_performEach (store : Store) (entries : List NodeEntry) :
    replayNodes store entries =
      store.performEach (entries.map fun entry => Call.node entry.update) := by
  induction entries generalizing store with
  | nil => rfl
  | cons entry rest ih =>
    rw [replayNodes, List.map_cons, Store.performEach, Store.perform]
    cases store.addNode entry.update with
    | mk after fault =>
      cases fault with
      | none => exact ih after
      | some fault => rfl

theorem replayEdges_eq_performEach (store : Store) (entries : List EdgeEntry) :
    replayEdges store entries =
      store.performEach (entries.map fun entry => Call.edge entry.update) := by
  induction entries generalizing store with
  | nil => rfl
  | cons entry rest ih =>
    rw [replayEdges, List.map_cons, Store.performEach, Store.perform]
    cases store.addEdge entry.update with
    | mk after fault =>
      cases fault with
      | none => exact ih after
      | some fault => rfl

theorem replay_eq_performEach (document : Document) :
    document.replay = Store.empty.performEach document.calls := by
  rw [Document.replay, Document.calls, Store.performEach_append, replayNodes_eq_performEach]
  cases Store.empty.performEach (document.nodes.map fun entry => Call.node entry.update) with
  | error fault => rfl
  | ok store => exact replayEdges_eq_performEach store document.edges

theorem plain_calls (document : Document) : ∀ call ∈ document.calls, call.properties = .none := by
  intro call member
  rcases List.mem_append.1 member with node | edge
  · obtain ⟨entry, _, rfl⟩ := List.mem_map.1 node
    rfl
  · obtain ⟨entry, _, rfl⟩ := List.mem_map.1 edge
    rfl

end GraphFile

end TemporalNetwork
