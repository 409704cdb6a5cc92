import TemporalNetwork.Proofs.Generation.FailurePolicy
import TemporalNetwork.Proofs.Store.Counting

/-!
The accounts of a generation. A summary is made of counters that are kept beside the graph, and the
time is counted ahead of the graph's clock. Main statement: whenever a generation gives a summary,
its numbers are those by which the graph has grown, whatever nodes were refused on the way and
whichever of the sampled pairs had an edge already.
-/

namespace TemporalNetwork.Generation

def refusedAttempts (guarded : GuardedStore) (n : Nat) : List (Nat × NodeId) :=
  (attempts guarded.store n).filter fun attempt => guarded.refuses attempt.2

def oldPairs (p : Probability) (stream : Nat → Draw) (guarded : GuardedStore) (n : Nat) :
    List (NodeId × NodeId) :=
  (sampledPairs p stream guarded n).filter (· ∈ guarded.store.pairs)

/-- The numbers of a summary against the graph before and the graph after. -/
structure Accounts (p : Probability) (stream : Nat → Draw) (guarded : GuardedStore) (n : Nat)
    (outcome : Outcome) (summary : Summary) : Prop where
  requested : summary.nodesRequested = n
  /-- Each refused attempt has its line in the log. -/
  logged : (outcome.events.filter (·.level = .error)).length = (refusedAttempts guarded n).length
  accepted : summary.nodesAdded = n - (refusedAttempts guarded n).length
  nodes : summary.nodesAdded = outcome.store.store.nodeCount - guarded.store.nodeCount
  updates : summary.edgesAdded = outcome.store.store.updateTotal - guarded.store.updateTotal
  edges : (outcome.store.store.edgeCount - guarded.store.edgeCount : Int) =
    summary.edgesAdded - (oldPairs p stream guarded n).length
  draws : summary.draws =
    outcome.store.store.nodeCount * ((outcome.store.store.nodeCount : Int) - 1)
  latest : summary.latestTime = outcome.store.store.latest.map fun t => (t : Int)
  /-- The clock is at the time that was counted, unless that is the time of a refused node. -/
  clock : (0 < summary.edgesAdded ∨ ∃ last ∈ (attempts guarded.store n).getLast?,
      guarded.refuses last.2 = false) →
    summary.latestTime = some (startTime guarded.store + n + summary.edgesAdded)

section

variable {p : Probability} {stream : Nat → Draw} {guarded : GuardedStore} {n : Nat}

/-! ## Nodes -/

theorem length_accepted (guarded : GuardedStore) (n : Nat) :
    (guarded.accepted (attempts guarded.store n)).length + (refusedAttempts guarded n).length =
      n := by
  have all := List.length_eq_length_filter_add (l := attempts guarded.store n)
    fun attempt => guarded.refuses attempt.2
  rw [attempts, length_stamped, newIds, Allocator.take_length] at all
  rw [GuardedStore.accepted, refusedAttempts, attempts, newIds]
  omega

theorem length_members (guarded : GuardedStore) (n : Nat) :
    (members guarded n).length =
      guarded.store.nodeCount + (guarded.accepted (attempts guarded.store n)).length := by
  rw [members, List.length_append, ← map_snd_accepted, List.length_map, Store.ids, List.length_map]
  rfl

theorem nodeCount_grown (valid : guarded.store.WellFormed) (made : Nat) :
    (grown p stream guarded n made).nodeCount = (members guarded n).length := by
  rw [← ids_grown p stream valid made, Store.ids, List.length_map]
  rfl

/-! ## Edges -/

-- Nodes that arrive bring no edges.
theorem edgeList_peopled (valid : guarded.store.WellFormed) (n : Nat) :
    (peopled guarded n).edgeList = guarded.store.edgeList :=
  Store.edgeList_insertAll_arrivals _ _ (nodup_arrivals valid n)

theorem joins_all (p : Probability) (stream : Nat → Draw) (valid : guarded.store.WellFormed)
    (n : Nat) : (peopled guarded n).Joins (links p stream guarded n) := by
  have joins : (peopled guarded n).Joins
      ((links p stream guarded n).take (links p stream guarded n).length) := joins_links valid _
  rwa [List.take_length] at joins

theorem grown_whole (p : Probability) (stream : Nat → Draw) (guarded : GuardedStore) (n : Nat) :
    grown p stream guarded n (links p stream guarded n).length =
      (peopled guarded n).insertAll ((links p stream guarded n).map .link) := by
  rw [grown_split, List.take_length]

theorem updateTotal_grown (p : Probability) (stream : Nat → Draw)
    (valid : guarded.store.WellFormed) (kept : (peopled guarded n).WellFormed) :
    (grown p stream guarded n (links p stream guarded n).length).updateTotal =
      guarded.store.updateTotal + (links p stream guarded n).length := by
  rw [grown_whole, Store.updateTotal_insertAll_links kept (joins_all p stream valid n),
    Store.updateTotal, edgeList_peopled valid, Store.updateTotal]

theorem edgeCount_grown (p : Probability) (stream : Nat → Draw)
    (valid : guarded.store.WellFormed) (kept : (peopled guarded n).WellFormed) :
    (grown p stream guarded n (links p stream guarded n).length).edgeCount +
        (oldPairs p stream guarded n).length =
      guarded.store.edgeCount + (links p stream guarded n).length := by
  have ends : (links p stream guarded n).map Prod.snd = sampledPairs p stream guarded n :=
    map_snd_stamped _ _
  have distinct : ((links p stream guarded n).map Prod.snd).Nodup := by
    rw [ends]
    exact nodup_map_pick p stream (nodup_members valid n)
  have counted := Store.edgeCount_insertAll_links kept (joins_all p stream valid n) distinct
  rw [← grown_whole, ends, Store.pairs, Store.edgeCount, Store.edgeCount,
    edgeList_peopled valid] at counted
  exact counted

/-! ## The clock -/

-- The last insertion is at the time that was counted, if it is a link or the last attempt.
theorem latest_grown_of_last (p : Probability) (stream : Nat → Draw) (guarded : GuardedStore)
    (n : Nat) (counts : 0 < (links p stream guarded n).length ∨
      ∃ last ∈ (attempts guarded.store n).getLast?, guarded.refuses last.2 = false) :
    (grown p stream guarded n (links p stream guarded n).length).latest =
      some (startTime guarded.store + n + (links p stream guarded n).length) := by
  have size : (links p stream guarded n).length = (sampledPairs p stream guarded n).length :=
    length_stamped _ _
  have linked : ((links p stream guarded n).map Prod.fst).getLast? =
      (sampledPairs p stream guarded n).getLast?.map fun _ =>
        startTime guarded.store + n + (sampledPairs p stream guarded n).length := by
    rw [List.getLast?_map, links, getLast?_stamped, Option.map_map]
    rfl
  rw [latest_grown, times_insertions, List.take_length, List.getLast?_append, linked]
  cases final : (sampledPairs p stream guarded n).getLast? with
  | some pair => simp [size]
  | none =>
    have nothing : (sampledPairs p stream guarded n).length = 0 := by
      rw [List.getLast?_eq_none_iff.1 final]
      rfl
    obtain ⟨last, found, free⟩ := counts.resolve_left (by omega)
    obtain ⟨earlier, whole⟩ := List.getLast?_eq_some_iff.1 found
    have time : last.1 = startTime guarded.store + n := by
      rw [attempts, getLast?_stamped, newIds, Allocator.take_length] at found
      obtain ⟨_, _, same⟩ := Option.map_eq_some_iff.1 found
      rw [← same]
    simp [whole, GuardedStore.accepted, List.filter_append, free, time, size, nothing]

/-! ## The summary -/

theorem accounts_of_whole (valid : guarded.store.WellFormed)
    (kept : (peopled guarded n).WellFormed) (seeded : Bool) {outcome : Outcome}
    (store : outcome.store.store = grown p stream guarded n (links p stream guarded n).length)
    (logged : (outcome.events.filter (·.level = .error)).length =
      (refusedAttempts guarded n).length) :
    Accounts p stream guarded n outcome (wholeSummary p stream guarded n seeded) := by
  have attempted := length_accepted guarded n
  have everyone := length_members guarded n
  have nodes : outcome.store.store.nodeCount = (members guarded n).length := by
    rw [store, nodeCount_grown valid]
  have updates := updateTotal_grown p stream valid kept
  have edges := edgeCount_grown p stream valid kept
  rw [← store] at updates edges
  refine ⟨rfl, logged, ?_, ?_, ?_, ?_, ?_, ?_, ?_⟩
  · simp only [wholeSummary]
    omega
  · simp only [wholeSummary]
    omega
  · simp only [wholeSummary]
    omega
  · simp only [wholeSummary]
    omega
  · simp only [wholeSummary, nodes]
    cases (members guarded n).length with
    | zero => rfl
    | succ m => simp
  · rw [store]
    rfl
  · intro counts
    have moved := latest_grown_of_last p stream guarded n
      (counts.imp_left fun some_link => by simpa [wholeSummary] using some_link)
    simp only [wholeSummary, moved]
    simp

end

-- A summary that is given is the one of the run, and only its line has been logged since.
theorem run_of_generate {resources : Resources} {logging : Logging} {guarded : GuardedStore}
    {request : Request} {summary : Summary}
    (returned : (generate resources logging guarded request).result = .ok summary) :
    (run resources logging guarded request).result = .ok summary ∧
      (generate resources logging guarded request).events =
        (run resources logging guarded request).events ++
          [.finished summary request.probability] := by
  simp only [generate] at returned ⊢
  cases result : (run resources logging guarded request).result with
  | error fault => simp [result] at returned
  | ok known =>
    simp only [result] at returned ⊢
    cases line : lineFault? logging (.finished known request.probability) with
    | some fault => simp [line] at returned
    | none =>
      simp only [line] at returned ⊢
      have same : known = summary := Except.ok.inj returned
      subst same
      exact ⟨rfl, rfl⟩

/-- A generation that gives a summary gives the right one: whatever nodes were refused and whichever
pairs were edges before, its numbers are those by which the graph has grown, and its time is the one
that the graph's clock shows. -/
theorem generate_accounts {carries : Value → Prop} {guarded : GuardedStore}
    (reached : Reachable carries guarded.store) {resources : Resources} {request : Request} {n : Nat}
    {p : Probability} {source : Source} (count : requestedCount request.count = .ok n)
    (probability : Probability.ofValue request.probability = .ok p)
    (draws : Source.ofValue resources request.seed = .ok source) (logging : Logging)
    {summary : Summary}
    (returned : (generate resources logging guarded request).result = .ok summary) :
    Accounts p source.stream guarded n (generate resources logging guarded request) summary := by
  have valid := reached.wellFormed
  obtain ⟨ran, events⟩ := run_of_generate returned
  have populated := run_of_source count probability draws logging guarded
  rw [populated] at ran events
  obtain ⟨store, told, same, kept⟩ := populate_returned valid ran
  rw [same]
  apply accounts_of_whole valid kept source.seeded
  · rw [generate_store, populated, store]
  · -- The line about the end is no error.
    rw [events, told, List.filter_append, errors_nodeEvents, List.length_append,
      GuardedStore.refusals, List.length_map, refusedAttempts]
    simp [Event.level]

/-- One new node is refused, and all pairs of nodes are linked, one of which was an edge; a node has
an edge to itself. -/
theorem generate_accounts_refused_beside_loop :
    let link (t source target : Int) : Call := .edge
      { time := .int t, source := .int source, target := .int target, properties := .none
        type := .none }
    let guarded : GuardedStore := {
      store := Store.empty.performAll [link 3 1 2, link 2 1 1]
      guard := some { refused := [.int 3], failingEdge := none, edgeCalls := 0 } }
    let zero : Value := .bytes (List.replicate 32 0)
    let request : Request :=
      { count := .int 2, probability := .float (.infinite false), seed := zero }
    let summary : Summary :=
      { generator := "erdos_renyi", nodesRequested := 2, nodesAdded := 1, edgesAdded := 6, draws := 6
        seeded := true, latestTime := some 11 }
    let outcome := generate .zero .strict guarded request
    Reachable (fun _ => True) guarded.store ∧
      (requestedCount request.count = .ok 2 ∧
        Probability.ofValue request.probability = .ok (.infinite false) ∧
        Source.ofValue .zero request.seed = .ok (.ofSeed .zero)) ∧
      outcome.result = .ok summary ∧
      Accounts (.infinite false) (Source.ofSeed .zero).stream guarded 2 outcome summary := by
  intro link guarded zero request summary outcome
  have reached : Reachable (fun _ => True) guarded.store :=
    .call (.call .empty (link 3 1 2) trivial) (link 2 1 1) trivial
  have given : outcome.result.toOption = some summary := by decide +kernel
  have returned : outcome.result = .ok summary := by
    cases result : outcome.result with
    | error fault =>
      rw [result] at given
      cases given
    | ok known =>
      rw [result] at given
      exact congrArg Except.ok (Option.some.inj given)
  exact ⟨reached, ⟨rfl, rfl, rfl⟩, returned,
    generate_accounts reached rfl rfl rfl .strict returned⟩

end TemporalNetwork.Generation
