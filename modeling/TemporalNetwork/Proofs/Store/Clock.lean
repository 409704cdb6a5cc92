import Mathlib.Order.Bounds.Defs
import TemporalNetwork.Proofs.Store.CallLog

/-!
The clock of a graph. It is moved apart from the histories and only at the end of an update, so it is
compared with both: with the calls that came to an end, and with the times in the histories. An
update that breaks off while its properties are merged has a time in a history and none on the
clock. Main statement: the clock spans the times of the accepted calls, and spans all histories as
long as no properties can break an update off.
-/

namespace TemporalNetwork

namespace Store

/-- The clock shows the first and the last of some times, and nothing if there are none. -/
structure Spans (store : Store) (times : Set Nat) : Prop where
  earliest : ∀ t, store.earliest = some t ↔ IsLeast times t
  latest : ∀ t, store.latest = some t ↔ IsGreatest times t

/-- A time is in the history of a node or of an edge, under any keys that have one. -/
def Records (store : Store) (t : Nat) : Prop :=
  (∃ key times, store.nodeHistory key = .ok times ∧ t ∈ times) ∨
    ∃ source target times, store.edgeHistory source target = .ok times ∧ t ∈ times

/-! ## The clock as the ends of a list -/

/-- The clock after updates at the given times. -/
structure Clocked (store : Store) (times : List Nat) : Prop where
  earliest : store.earliest = times.min?
  latest : store.latest = times.max?

theorem clocked_empty : Clocked .empty [] := ⟨rfl, rfl⟩

variable {store : Store} {times : List Nat}

theorem Clocked.advance (clocked : store.Clocked times) (t : Nat) :
    (store.advance t).Clocked (times ++ [t]) where
  earliest := by
    rw [Ledger.min?_concat, ← clocked.earliest]
    rfl
  latest := by
    rw [Ledger.max?_concat, ← clocked.latest]
    rfl

theorem Clocked.place (clocked : store.Clocked times) (insertion : Insertion) :
    (store.place insertion).1.Clocked times where
  earliest := (store.earliest_place insertion).trans clocked.earliest
  latest := (store.latest_place insertion).trans clocked.latest

/-- A call that ends moves the clock to its time, any other leaves the clock alone. -/
theorem Clocked.perform (clocked : store.Clocked times) (call : Call) :
    (∃ t : Nat, call.time = .int t ∧ (store.perform call).2 = none ∧
        (store.perform call).1.Clocked (times ++ [t])) ∨
      (store.perform call).2 ≠ none ∧ (store.perform call).1.Clocked times := by
  rcases store.perform_cases call with ⟨refusal, refused⟩ | ⟨insertion, rfl, _, placed⟩
  · rw [refused]
    exact .inr ⟨Option.some_ne_none _, clocked⟩
  · have kept := clocked.place insertion
    rw [placed]
    revert kept
    rcases store.place insertion with ⟨after, _ | fault⟩ <;> intro kept
    · exact .inl ⟨insertion.time, insertion.time_call, rfl, kept.advance insertion.time⟩
    · exact .inr ⟨Option.some_ne_none _, kept⟩

theorem Clocked.performAll (clocked : store.Clocked times) (calls : List Call) :
    ∃ later : List Nat,
      (store.accepted calls).map Call.time = later.map (fun t : Nat => Value.int t) ∧
        (store.performAll calls).Clocked (times ++ later) := by
  induction calls generalizing store times with
  | nil => exact ⟨[], rfl, by simpa [Store.performAll] using clocked⟩
  | cons call rest ih =>
    rcases clocked.perform call with ⟨t, timed, ended, moved⟩ | ⟨failed, kept⟩
    · obtain ⟨later, agree, after⟩ := ih moved
      refine ⟨t :: later, ?_, by simpa [Store.performAll] using after⟩
      cases performed : store.perform call with
      | mk next fault =>
        rw [performed] at ended agree
        subst ended
        simp only [Store.accepted, performed, List.map_cons, timed, agree]
    · obtain ⟨later, agree, after⟩ := ih kept
      refine ⟨later, ?_, by simpa [Store.performAll] using after⟩
      cases performed : store.perform call with
      | mk next fault =>
        rw [performed] at failed agree
        cases fault with
        | none => exact absurd rfl failed
        | some fault => simpa only [Store.accepted, performed] using agree

theorem Clocked.spans (clocked : store.Clocked times) : store.Spans {t | t ∈ times} where
  earliest t := by
    rw [clocked.earliest, List.min?_eq_some_iff]
    rfl
  latest t := by
    rw [clocked.latest, List.max?_eq_some_iff]
    rfl

theorem Clocked.between (clocked : store.Clocked times) {t : Nat} (member : t ∈ times) :
    ∃ first last, store.earliest = some first ∧ store.latest = some last ∧
      first ≤ t ∧ t ≤ last := by
  have some : times ≠ [] := List.ne_nil_of_mem member
  obtain ⟨first, least⟩ := Option.ne_none_iff_exists'.1 (mt List.min?_eq_none_iff.1 some)
  obtain ⟨last, greatest⟩ := Option.ne_none_iff_exists'.1 (mt List.max?_eq_none_iff.1 some)
  exact ⟨first, last, clocked.earliest.trans least, clocked.latest.trans greatest,
    (List.min?_eq_some_iff.1 least).2 t member, (List.max?_eq_some_iff.1 greatest).2 t member⟩

/-! ## Histories asked for by keys -/

theorem exists_nodeHistory {t : Nat} :
    (∃ key times, store.nodeHistory key = .ok times ∧ t ∈ times) ↔
      ∃ id node, store.node? id = some node ∧ t ∈ node.history.times := by
  constructor
  · rintro ⟨key, times, answer, member⟩
    rw [nodeHistory] at answer
    split at answer
    · next node named =>
      cases answer
      obtain ⟨id, _, found⟩ := Option.bind_eq_some_iff.1 named
      exact ⟨id, node, found, member⟩
    · cases answer
  · rintro ⟨id, node, found, member⟩
    have named : store.nodeNamed? id.toValue = some node := by
      rw [nodeNamed?, NodeId.named?_toValue, Option.bind_some, found]
    exact ⟨id.toValue, node.history.times, by rw [nodeHistory, named], member⟩

-- Keys that find an edge are equal to the ids of its ends.
theorem exists_edge?_of_edgeNamed? {source target : Value} {edge : Edge}
    (named : store.edgeNamed? source target = .ok (some edge)) :
    ∃ first second, store.edge? first second = some edge := by
  rw [edgeNamed?] at named
  split at named
  · cases named
  · split at named
    · cases named
    · next node known =>
      split at named
      · cases named
      · obtain ⟨first, _, found⟩ := Option.bind_eq_some_iff.1 known
        obtain ⟨second, _, linked⟩ := Option.bind_eq_some_iff.1 (Except.ok.inj named)
        exact ⟨first, second, by rw [edge?, found, Option.bind_some, linked]⟩

theorem exists_edgeHistory {t : Nat} :
    (∃ source target times, store.edgeHistory source target = .ok times ∧ t ∈ times) ↔
      ∃ source target edge, store.edge? source target = some edge ∧ t ∈ edge.history.times := by
  constructor
  · rintro ⟨sourceKey, targetKey, times, answer, member⟩
    rw [edgeHistory] at answer
    split at answer
    · cases answer
    · next edge named =>
      cases answer
      obtain ⟨source, target, found⟩ := exists_edge?_of_edgeNamed? named
      exact ⟨source, target, edge, found, member⟩
    · cases answer
  · rintro ⟨source, target, edge, found, member⟩
    have named := Store.edgeNamed?_toValue store source target
    rw [found] at named
    exact ⟨source.toValue, target.toValue, edge.history.times, by rw [edgeHistory, named], member⟩

end Store

/-- The lines of a ledger are what the histories hold. -/
theorem Ledger.Shown.records_iff {store : Store} {ledger : Ledger} (shown : Shown store ledger)
    {t : Nat} : store.Records t ↔ t ∈ ledger.map Insertion.time := by
  rw [Store.Records, Store.exists_nodeHistory, Store.exists_edgeHistory, shown.mem_times]

namespace Store

structure Timekeeping (store : Store) (ended : List Call) : Prop where
  times : ∀ call ∈ ended, ∃ t : Nat, call.time = .int t
  spans : store.Spans {t | ∃ call ∈ ended, call.time = .int t}
  earliest : store.earliest = none ↔ ended = []
  latest : store.latest = none ↔ ended = []

structure Encloses (store : Store) : Prop where
  spans : store.Spans {t | store.Records t}
  between : ∀ t, store.Records t →
    ∃ first last, store.earliest = some first ∧ store.latest = some last ∧ first ≤ t ∧ t ≤ last

theorem Clocked.timekeeping {store : Store} {times : List Nat} (clocked : store.Clocked times)
    {ended : List Call} (agree : ended.map Call.time = times.map fun t : Nat => Value.int t) :
    store.Timekeeping ended := by
  have timed : ∀ t : Nat, t ∈ times ↔ ∃ call ∈ ended, call.time = .int t := by
    intro t
    rw [← List.mem_map, agree, List.mem_map]
    simp [Int.natCast_inj]
  have idle : times = [] ↔ ended = [] := by
    rw [← List.map_eq_nil_iff (f := fun t : Nat => Value.int t), ← agree, List.map_eq_nil_iff]
  refine ⟨?_, ?_, ?_, ?_⟩
  · intro call member
    have inside := List.mem_map_of_mem (f := Call.time) member
    rw [agree] at inside
    obtain ⟨t, _, same⟩ := List.mem_map.1 inside
    exact ⟨t, same.symm⟩
  · simpa only [timed] using clocked.spans
  · rw [clocked.earliest, List.min?_eq_none_iff, idle]
  · rw [clocked.latest, List.max?_eq_none_iff, idle]

/-- The clock spans the times of the accepted calls, whatever is called; if no properties can break
a call off, it spans the histories too. -/
theorem performAll_clock (calls : List Call) :
    (empty.performAll calls).Timekeeping (empty.accepted calls) ∧
      ((∀ call ∈ calls, call.properties.Merges) → (empty.performAll calls).Encloses) := by
  constructor
  · obtain ⟨times, agree, clocked⟩ := clocked_empty.performAll calls
    exact clocked.timekeeping agree
  · intro merges
    obtain ⟨ledger, _, shown⟩ := Ledger.shown_empty.performAll_of_merges merges
    rw [List.nil_append] at shown
    have clocked : (empty.performAll calls).Clocked (ledger.map Insertion.time) :=
      ⟨shown.earliest, shown.latest⟩
    refine ⟨?_, ?_⟩
    · simpa only [shown.records_iff] using clocked.spans
    · intro t recorded
      exact clocked.between (shown.records_iff.1 recorded)

/-- A loop brings its node in at a late time, a call of the other kind is refused, and the node's
own update goes back in time: the clock shows both ends. -/
theorem performAll_clock_back_in_time :
    let loop : Call := .edge
      { time := .int 7, source := .int 1, target := .int 1, properties := .list [], type := .none }
    let foreign : Call := .node
      { time := .int 9, id := .text "1", properties := .none, type := .none }
    let update : Call := .node
      { time := .int 0, id := .int 1, properties := .dict [(.text "k", .int 1)], type := .none }
    let calls := [loop, foreign, update]
    (∀ call ∈ calls, call.properties.Merges) ∧ (empty.performAll calls).Encloses ∧
      (empty.performAll calls).earliest = some 0 ∧ (empty.performAll calls).latest = some 7 := by
  intro loop foreign update calls
  have merges : ∀ call ∈ calls, call.properties.Merges := by
    simp [calls, loop, foreign, update, Call.properties, Value.Merges, Value.isFalsy]
  exact ⟨merges, (performAll_clock calls).2 merges, rfl, rfl⟩

-- Properties that are no pairs break an update off after its time is recorded.
example :
    let broken := empty.performAll
      [.node { time := .int 4, id := .int 1, properties := .int 5, type := .none }]
    broken.nodeHistory (.int 1) = .ok [4] ∧ broken.earliest = none ∧ broken.latest = none :=
  ⟨rfl, rfl, rfl⟩

end Store

end TemporalNetwork
