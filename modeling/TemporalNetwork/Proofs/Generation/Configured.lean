import TemporalNetwork.Proofs.Config
import TemporalNetwork.Proofs.Generation.FailurePolicy
import TemporalNetwork.Proofs.GraphFile.Portable

/-!
Generations that a configuration asks for. The checks of a configuration and the checks of a graph
were written apart; together they leave nothing that can go wrong. Main statement: on whatever graph
a caller can come by, a generation with an accepted configuration ends with a summary, adds all its
nodes, has every call accepted and logs no error, whatever it draws.
-/

namespace TemporalNetwork

/-- The graphs that a caller can come by: the empty one, those of files, and what calls and
generations make of these, failing ones included. -/
inductive Supplied : Store → Prop
  | empty : Supplied .empty
  | loaded {workspace : Workspace} {path : String} {store : Store}
      (loaded : GraphFile.load workspace path = .ok store) : Supplied store
  | call {store : Store} (supplied : Supplied store) (call : Call) :
      Supplied (store.perform call).1
  | generation {store : Store} (supplied : Supplied store) (resources : Resources) (logging : Logging)
      (request : Generation.Request) :
      Supplied (Generation.generate resources logging (.ofStore store) request).store.store

theorem GraphFile.exists_calls_of_load {workspace : Workspace} {path : String} {store : Store}
    (loaded : load workspace path = .ok store) :
    ∃ calls, Store.empty.accepted calls = calls ∧ Store.empty.performAll calls = store := by
  rw [load] at loaded
  split at loaded
  · cases loaded
  · cases loaded
  · next content _ =>
    rw [ofBytes] at loaded
    split at loaded
    · cases loaded
    · split at loaded
      · cases loaded
      · next document _ =>
        rw [replay_eq_performEach] at loaded
        cases done : Store.empty.performEach document.calls with
        | error fault =>
          rw [done] at loaded
          cases loaded
        | ok after =>
          rw [done] at loaded
          cases loaded
          obtain ⟨all, accepted⟩ := Store.performAll_of_performEach done
          exact ⟨document.calls, accepted, all⟩

theorem Supplied.reachable {store : Store} (supplied : Supplied store) :
    Reachable (fun _ => True) store := by
  induction supplied with
  | empty => exact .empty
  | loaded loaded =>
    obtain ⟨calls, _, all⟩ := GraphFile.exists_calls_of_load loaded
    rw [← all]
    exact Reachable.empty.performAll fun _ _ => trivial
  | call _ call ih => exact .call ih call trivial
  | @generation store _ resources logging request ih =>
    have start : Reachable (fun _ => True) (GuardedStore.ofStore store).store := ih
    rw [Generation.generate_store]
    exact start.generation resources logging request

namespace Generation

def nodeCalls (store : Store) (n : Nat) : List Call :=
  (attempts store n).map fun attempt => .node (plainNode attempt.1 attempt.2)

def edgeCalls (entries : List (Nat × NodeId × NodeId)) : List Call :=
  entries.map fun entry => .edge (plainEdge entry.1 entry.2.1 entry.2.2)

/-- A generation in which nothing is refused: it ends with a summary, with all nodes and no error in
the log, and the graph comes about by its calls, each of which is accepted. -/
def Undisturbed (count : Nat) (before : Store) (outcome : Outcome) : Prop :=
  ∃ summary, outcome.result = .ok summary ∧ summary.nodesAdded = count ∧
    (∀ event ∈ outcome.events, event.level ≠ .error) ∧
    ∃ entries : List (Nat × NodeId × NodeId), summary.edgesAdded = entries.length ∧
      before.accepted (nodeCalls before count ++ edgeCalls entries) =
        nodeCalls before count ++ edgeCalls entries ∧
      outcome.store.store = before.performAll (nodeCalls before count ++ edgeCalls entries)

variable {store : Store} {p : Probability} {stream : Nat → Draw} {n : Nat}

theorem calls_insertions (p : Probability) (stream : Nat → Draw) (store : Store) (n : Nat) :
    (insertions p stream (.ofStore store) n (links p stream (.ofStore store) n).length).map
        Insertion.call =
      nodeCalls store n ++ edgeCalls (links p stream (.ofStore store) n) := by
  rw [insertions, accepted_ofStore, List.take_length, List.map_append, List.map_map, List.map_map]
  rfl

theorem performEach_insertions (valid : store.WellFormed)
    (grew : (store.insertAll (insertions p stream (.ofStore store) n
      (links p stream (.ofStore store) n).length)).WellFormed) :
    store.performEach (nodeCalls store n ++ edgeCalls (links p stream (.ofStore store) n)) =
      .ok (store.insertAll (insertions p stream (.ofStore store) n
        (links p stream (.ofStore store) n).length)) := by
  -- The ids of the calls are among those of the graph that comes out, which are of one kind.
  obtain ⟨kind, alike⟩ := Store.exists_kind grew
  rw [← calls_insertions]
  have before : ∀ id ∈ store.ids, id.kind = kind := fun id old =>
    alike id ((Store.mem_ids_insertAll store _).2 (.inl old))
  apply Store.performEach_of_alike valid before
  · intro line member
    have bare := Store.carried_insertions p stream (.ofStore store) n _ line member
    cases line <;> exact bare.2
  · intro line member id mentioned
    exact alike id ((Store.mem_ids_insertAll store _).2 (.inr ⟨line, member, mentioned⟩))

theorem errors_nodeEvents_ofStore (store : Store) (n : Nat) :
    ∀ event ∈ nodeEvents (.ofStore store) n, event.level ≠ .error := by
  -- The errors among these lines are the refusals, and there is nobody to refuse.
  have none : (GuardedStore.ofStore store).refusals (attempts store n) = [] := by
    rw [GuardedStore.refusals, List.map_eq_nil_iff, List.filter_eq_nil_iff]
    exact fun _ _ => Bool.false_ne_true
  have errors := errors_nodeEvents (.ofStore store) n
  rw [show (GuardedStore.ofStore store).refusals (attempts (GuardedStore.ofStore store).store n) = _
    from none, List.filter_eq_nil_iff] at errors
  intro event member same
  exact errors event member (by simp [same])

/-- The types of its parts say what a configuration was checked for, so any configuration will do. -/
theorem generate_undisturbed (config : Config) {store : Store} (supplied : Supplied store)
    (resources : Resources) (logging : Logging)
    (legible : logging = .strict →
      Legible (generate resources .lenient (.ofStore store) config.request).store.store) :
    Undisturbed config.count store
      (generate resources logging (.ofStore store) config.request) := by
  have reached := supplied.reachable
  have valid := reached.wellFormed
  have count := config.requestedCount_request
  have draws := config.source_request resources
  generalize (config.seed.map Source.ofSeed).getD (.ofEntropy resources.entropy) = source at draws
  have never : Logging.lenient ≠ .strict := by decide
  have lenient := generate_of_source valid count config.probability_request draws .lenient
    (absurd · never) (absurd · never)
  have after : (generate resources .lenient (.ofStore store) config.request).store.store.WellFormed :=
    (Supplied.generation supplied resources .lenient config.request).reachable.wellFormed
  rw [lenient] at legible after
  have written : logging = .strict → (∀ id ∈ newIds store config.count, id.fits = true) ∧
      (Event.finished (wholeSummary (.ofDouble config.probability) source.stream (.ofStore store)
        config.count source.seeded) config.request.probability).fits = true :=
    fun strict => fits_of_legible valid rfl (legible strict)
  rw [generate_of_source valid count config.probability_request draws logging
    (fun strict => (written strict).1) fun strict => (written strict).2]
  obtain ⟨all, accepted⟩ := Store.performAll_of_performEach (performEach_insertions valid after)
  refine ⟨_, rfl, ?_, ?_, _, ?_, accepted, all.symm⟩
  · simp only [wholeSummary, accepted_ofStore, attempts, length_stamped, newIds,
      Allocator.take_length]
  · intro event member
    rcases List.mem_append.1 member with line | last
    · exact errors_nodeEvents_ofStore store config.count event line
    · rw [List.mem_singleton.1 last]
      exact (by decide : Level.info ≠ .error)
  · rfl

/-- Nothing goes wrong in a generation that accepted fields ask for: as many nodes are added as the
fields say, and no call is refused. Either logging is lenient, or what comes out can be written. -/
theorem generate_of_config {memory : Nat} {fields : Fields} {config : Config}
    (configured : Config.ofFields memory fields = .ok config) {store : Store}
    (supplied : Supplied store) (resources : Resources) (logging : Logging)
    (legible : logging = .strict →
      Legible (generate resources .lenient (.ofStore store) config.request).store.store) :
    ∃ input, fields.find? "n_nodes" = some input ∧ Coercion.count input = .ok config.count ∧
      Undisturbed config.count store
        (generate resources logging (.ofStore store) config.request) := by
  obtain ⟨input, found, count⟩ :=
    Fields.required_eq_ok.1 (Config.readings_of_ofFields configured).1
  exact ⟨input, found, count, generate_undisturbed config supplied resources logging legible⟩

/-- Two nodes beside one that was named after a call that was refused, without a seed. -/
theorem generate_of_config_after_refusal :
    let fields : Fields := [("n_nodes", .text "2")]
    let config : Config :=
      { generator := Generator.erdosRenyi.name, count := 2, probability := evenProbability
        seed := none }
    let backwards : Call := .node
      { time := .int (-1), id := .text "x", properties := .none, type := .none }
    let named : Call := .node
      { time := .int 7, id := .text "1", properties := .none, type := .none }
    let store := Store.empty.performAll [backwards, named]
    (Config.ofFields 0 fields = .ok config ∧ Supplied store ∧ store.ids = [.text "1"]) ∧
      ∃ input, fields.find? "n_nodes" = some input ∧ Coercion.count input = .ok 2 ∧
        Undisturbed 2 store (generate .zero .lenient (.ofStore store) config.request) := by
  intro fields config backwards named store
  have configured : Config.ofFields 0 fields = .ok config := by rfl
  have supplied : Supplied store := (Supplied.empty.call backwards).call named
  exact ⟨⟨configured, supplied, rfl⟩,
    generate_of_config configured supplied .zero .lenient nofun⟩

end Generation

end TemporalNetwork
