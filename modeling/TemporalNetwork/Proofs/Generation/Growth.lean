import Mathlib.Data.List.ProdSigma
import TemporalNetwork.Proofs.Generation.Insertions

/-!
How a run of any arguments changes a graph. Nodes may be refused, an edge may break the run off, and
so may a line that cannot be logged or a probability that is no number: what the run has done by then
is always of one form. Main statement: it let some of the nodes to come arrive, then it linked some
pairs of nodes, each pair once, and every insertion had a time behind the one before.
-/

namespace TemporalNetwork

namespace GuardedStore

-- Whoever says no to a node, the graph stays as it is.
theorem addNode_cases (guarded : GuardedStore) (t : Nat) (id : NodeId) :
    (guarded.addNode (Generation.plainNode t id)).1.store = guarded.store ∨
      (guarded.addNode (Generation.plainNode t id)).1.store =
        guarded.store.insert (.arrival (t, id)) := by
  rw [addNode]
  split
  · exact .inl rfl
  · rcases guarded.store.perform_call_cases (.arrival (t, id)) (.inl rfl) with
      ⟨fault, refused⟩ | inserted
    · exact .inl (congrArg Prod.fst refused)
    · exact .inr (congrArg Prod.fst inserted)

-- An edge that fails leaves the graph as it is.
theorem addEdge_cases (guarded : GuardedStore) (t : Nat) (pair : NodeId × NodeId) :
    (guarded.addEdge (Generation.plainEdge t pair.1 pair.2)).2 ≠ none ∧
        (guarded.addEdge (Generation.plainEdge t pair.1 pair.2)).1.store = guarded.store ∨
      (guarded.addEdge (Generation.plainEdge t pair.1 pair.2)).1.store =
        guarded.store.insert (.link (t, pair)) := by
  rw [addEdge, countEdge_eq]
  cases guarded.breaksAt 1 with
  | true => exact .inl ⟨Option.some_ne_none _, rfl⟩
  | false =>
    rcases guarded.store.perform_call_cases (.link (t, pair)) (.inl rfl) with
      ⟨fault, refused⟩ | inserted
    · have answer : guarded.store.addEdge (Generation.plainEdge t pair.1 pair.2) =
          (guarded.store, some fault) := refused
      simp [answer]
    · exact .inr (congrArg Prod.fst inserted)

end GuardedStore

namespace Generation

/-! ## Some nodes arrive -/

namespace NodePhase

theorem log_frame (phase : NodePhase) (logging : Logging) (event : Event) :
    (phase.log logging event).1.store = phase.store ∧
      (phase.log logging event).1.time = phase.time ∧
      (phase.log logging event).1.allocator = phase.allocator := by
  rw [log]
  split <;> exact ⟨rfl, rfl, rfl⟩

theorem tryNode_grows (logging : Logging) (phase : NodePhase) :
    (tryNode logging phase).1.time = phase.time + 1 ∧
      (tryNode logging phase).1.allocator = phase.allocator.next.2 ∧
      ∃ arrived : List (Nat × NodeId),
        arrived.Sublist [(phase.time + 1, phase.allocator.next.1)] ∧
        (tryNode logging phase).1.store.store =
          phase.store.store.insertAll (arrived.map .arrival) := by
  have attempt : ∃ arrived : List (Nat × NodeId),
      arrived.Sublist [(phase.time + 1, phase.allocator.next.1)] ∧
      (phase.store.addNode (plainNode (phase.time + 1) phase.allocator.next.1)).1.store =
        phase.store.store.insertAll (arrived.map .arrival) := by
    rcases phase.store.addNode_cases (phase.time + 1) phase.allocator.next.1 with same | inserted
    · exact ⟨[], List.nil_sublist _, same⟩
    · exact ⟨_, List.Sublist.refl _, inserted⟩
  obtain ⟨arrived, among, store⟩ := attempt
  simp only [tryNode, allocate]
  split <;> next added =>
    rw [added] at store
    first
      | exact ⟨rfl, rfl, arrived, among, store⟩
      | refine ⟨(log_frame _ _ _).2.1, (log_frame _ _ _).2.2, arrived, among, ?_⟩
        rw [(log_frame _ _ _).1]
        exact store

theorem tryNodes_grow (logging : Logging) (n : Nat) (phase : NodePhase) :
    ∃ arrived : List (Nat × NodeId), arrived.Sublist (phase.attempts n) ∧
      (tryNodes logging n phase).1.store.store =
        phase.store.store.insertAll (arrived.map .arrival) ∧
      ((tryNodes logging n phase).2 = none →
        (tryNodes logging n phase).1.time = phase.time + n) := by
  induction n generalizing phase with
  | zero => exact ⟨[], List.nil_sublist _, rfl, fun _ => rfl⟩
  | succ n ih =>
    obtain ⟨time, allocator, first, now, step⟩ := tryNode_grows logging phase
    have ahead : phase.attempts (n + 1) = (phase.time + 1, phase.allocator.next.1) ::
        (tryNode logging phase).1.attempts n := by
      rw [attempts, attempts, time, allocator]
      rfl
    rw [ahead, tryNodes]
    cases tried : tryNode logging phase with
    | mk next fault =>
      rw [tried] at time step
      cases fault with
      | none =>
        obtain ⟨later, among, store, ended⟩ := ih next
        refine ⟨first ++ later, now.append among, ?_, ?_⟩
        · rw [List.map_append, Store.insertAll_append, ← step]
          exact store
        · intro whole
          have last := ended whole
          rw [time] at last
          simp only at last ⊢
          omega
      | some fault =>
        exact ⟨first, now.trans (List.cons_sublist_cons.2 (List.nil_sublist _)), step,
          fun whole => absurd whole (Option.some_ne_none fault)⟩

end NodePhase

theorem newNodes_grow (logging : Logging) (guarded : GuardedStore) (n : Nat) :
    ∃ arrived : List (Nat × NodeId), arrived.Sublist (attempts guarded.store n) ∧
      (newNodes logging guarded n).1.store.store =
        guarded.store.insertAll (arrived.map .arrival) ∧
      ((newNodes logging guarded n).2 = none →
        (newNodes logging guarded n).1.time = startTime guarded.store + n) := by
  obtain ⟨arrived, among, store, ended⟩ := NodePhase.tryNodes_grow logging n (.start guarded)
  refine ⟨arrived, among, ?_⟩
  rw [newNodes]
  cases tried : NodePhase.tryNodes logging n (.start guarded) with
  | mk phase fault =>
    rw [tried] at store ended
    cases fault with
    | some fault => exact ⟨store, ended⟩
    | none =>
      simp only [NodePhase.conclude]
      split
      · exact ⟨store, ended⟩
      · next last _ =>
        obtain ⟨kept, time, _⟩ := phase.log_frame logging (.nodesAdded phase.added n last)
        rw [kept, time]
        exact ⟨store, fun _ => ended rfl⟩

/-! ## Some pairs are linked -/

namespace EdgePhase

/-- A pair of two nodes is linked at the next time, or the graph stays as it is; the phase goes on
only if the time has passed for a link that was made. -/
theorem tryPair_grows (p : Except Value.Kind Probability) (phase : EdgePhase)
    (pair : NodeId × NodeId) :
    ∃ made : List (NodeId × NodeId), made.Sublist ([pair].filter fun pair => pair.1 ≠ pair.2) ∧
      (tryPair p phase pair).1.store.store =
        phase.store.store.insertAll ((stamped phase.time made).map .link) ∧
      ((tryPair p phase pair).2 = none →
        (tryPair p phase pair).1.time = phase.time + made.length) := by
  have idle : ([] : List (NodeId × NodeId)).Sublist ([pair].filter fun pair => pair.1 ≠ pair.2) :=
    List.nil_sublist _
  rw [tryPair]
  split
  · exact ⟨[], idle, rfl, fun _ => rfl⟩
  · next apart =>
    have whole : [pair].filter (fun pair => pair.1 ≠ pair.2) = [pair] := by simp [apart]
    rw [whole] at idle ⊢
    cases p with
    | error kind => exact ⟨[], idle, rfl, fun _ => rfl⟩
    | ok p =>
      simp only
      split
      · have attempt := phase.store.addEdge_cases (phase.time + 1) pair
        simp only [link]
        cases added : phase.store.addEdge (plainEdge (phase.time + 1) pair.1 pair.2) with
        | mk after fault =>
          rw [added] at attempt
          rcases attempt with ⟨failed, same⟩ | inserted
          · cases fault with
            | none => exact absurd rfl failed
            | some fault =>
              refine ⟨[], idle, same, fun whole => ?_⟩
              cases whole
          · cases fault with
            | none => exact ⟨[pair], List.Sublist.refl _, inserted, fun _ => rfl⟩
            | some fault => exact ⟨[pair], List.Sublist.refl _, inserted, fun _ => rfl⟩
      · exact ⟨[], idle, rfl, fun _ => rfl⟩

theorem tryPairs_grow (p : Except Value.Kind Probability) (pairs : List (NodeId × NodeId))
    (phase : EdgePhase) :
    ∃ made : List (NodeId × NodeId), made.Sublist (pairs.filter fun pair => pair.1 ≠ pair.2) ∧
      (tryPairs p pairs phase).1.store.store =
        phase.store.store.insertAll ((stamped phase.time made).map .link) := by
  induction pairs generalizing phase with
  | nil => exact ⟨[], List.nil_sublist _, rfl⟩
  | cons pair rest ih =>
    obtain ⟨first, now, step, time⟩ := tryPair_grows p phase pair
    have ahead : (pair :: rest).filter (fun pair => pair.1 ≠ pair.2) =
        [pair].filter (fun pair => pair.1 ≠ pair.2) ++
          rest.filter fun pair => pair.1 ≠ pair.2 := List.filter_append [pair] rest
    rw [ahead, tryPairs]
    cases tried : tryPair p phase pair with
    | mk next fault =>
      rw [tried] at step time
      cases fault with
      | none =>
        obtain ⟨later, among, store⟩ := ih next
        refine ⟨first ++ later, now.append among, ?_⟩
        rw [stamped_append, List.map_append, Store.insertAll_append, ← step, ← time rfl]
        exact store
      | some fault =>
        exact ⟨first, now.trans (List.sublist_append_left _ _), step⟩

end EdgePhase

/-! ## The whole run -/

theorem nodup_allPairs {ids : List NodeId} (distinct : ids.Nodup) : (allPairs ids).Nodup :=
  List.Nodup.product distinct distinct

/-- A graph grows by nodes that are new and by links between two nodes that are there. -/
structure Growth (before : Store) (arrived : List (Nat × NodeId))
    (made : List (Nat × NodeId × NodeId)) (after : Store) : Prop where
  inserted : after = (before.insertAll (arrived.map .arrival)).insertAll (made.map .link)
  new : (before.ids ++ arrived.map Prod.snd).Nodup
  joins : (before.insertAll (arrived.map .arrival)).Joins made
  apart : ∀ entry ∈ made, entry.2.1 ≠ entry.2.2
  once : (made.map Prod.snd).Nodup
  later : (startTime before :: (arrived.map Prod.fst ++ made.map Prod.fst)).Pairwise (· < ·)

variable {store : Store}

theorem growth_of_sublists (valid : store.WellFormed) {n : Nat} {arrived : List (Nat × NodeId)}
    (among : arrived.Sublist (attempts store n)) {made : List (NodeId × NodeId)}
    (chosen : made.Sublist ((allPairs (store.insertAll (arrived.map .arrival)).ids).filter
      fun pair => pair.1 ≠ pair.2)) :
    Growth store arrived (stamped (startTime store + n) made)
      ((store.insertAll (arrived.map .arrival)).insertAll
        ((stamped (startTime store + n) made).map .link)) := by
  have new : (store.ids ++ arrived.map Prod.snd).Nodup := by
    have everyone : (store.ids ++ newIds store n).Nodup :=
      nodup_everyone (show (GuardedStore.ofStore store).store.WellFormed from valid) n
    have given := among.map Prod.snd
    rw [attempts, map_snd_stamped] at given
    exact everyone.sublist ((List.Sublist.refl store.ids).append given)
  have everyone := Store.ids_insertAll_arrivals store arrived new
  have between : ∀ entry ∈ stamped (startTime store + n) made,
      entry.2 ∈ allPairs (store.insertAll (arrived.map .arrival)).ids ∧ entry.2.1 ≠ entry.2.2 := by
    intro entry member
    have inside := List.mem_map_of_mem (f := Prod.snd) member
    rw [map_snd_stamped] at inside
    simpa using chosen.subset inside
  refine ⟨rfl, new, ?_, ?_, ?_, ?_⟩
  · exact fun entry member => mem_allPairs.1 (between entry member).1
  · exact fun entry member => (between entry member).2
  · rw [map_snd_stamped]
    exact ((nodup_allPairs (everyone ▸ new)).filter _).sublist chosen
  · have behind : (stamped (startTime store + n) made).Sublist
        (stamped (startTime store + (newIds store n).length) made) := by
      rw [newIds, Allocator.take_length]
    exact pairwise_lt_stamped among behind

theorem growth_refl (valid : store.WellFormed) : Growth store [] [] store :=
  growth_of_sublists valid (n := 0) (List.nil_sublist _) (List.nil_sublist _)

/-- Whatever is asked for, and however a run ends, the graph has grown. -/
theorem exists_growth {guarded : GuardedStore} (valid : guarded.store.WellFormed)
    (resources : Resources) (logging : Logging) (request : Request) :
    ∃ arrived made, Growth guarded.store arrived made
      (run resources logging guarded request).store.store := by
  rw [run]
  split
  · exact ⟨[], [], growth_refl valid⟩
  · next source _ =>
    split
    · exact ⟨[], [], growth_refl valid⟩
    · next n _ =>
      obtain ⟨arrived, among, store, time⟩ := newNodes_grow logging guarded n
      rw [populate]
      cases nodes : newNodes logging guarded n with
      | mk phase fault =>
        rw [nodes] at store time
        cases fault with
        -- A line about a node could not be logged.
        | some fault =>
          refine ⟨arrived, [], ?_⟩
          rw [show phase.store.store = _ from store]
          exact growth_of_sublists valid among (List.nil_sublist _)
        | none =>
          obtain ⟨made, chosen, links⟩ := EdgePhase.tryPairs_grow
            (Probability.ofValue request.probability) (allPairs phase.store.store.ids)
            { store := phase.store, source, time := phase.time, added := 0 }
          have ended : (connect phase n (Probability.ofValue request.probability) source).store =
              (EdgePhase.tryPairs (Probability.ofValue request.probability)
                (allPairs phase.store.store.ids)
                { store := phase.store, source, time := phase.time, added := 0 }).1.store := by
            rw [connect]
            split <;> next tried => rw [tried]
          refine ⟨arrived, stamped (startTime guarded.store + n) made, ?_⟩
          rw [ended, links, show phase.time = _ from time rfl, show phase.store.store = _ from store]
          rw [show phase.store.store = _ from store] at chosen
          exact growth_of_sublists valid among chosen

end Generation

end TemporalNetwork
