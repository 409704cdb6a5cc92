import TemporalNetwork.Proofs.Decimal
import TemporalNetwork.Proofs.Generation.Views
import TemporalNetwork.Proofs.Reachable

/-!
The law of a generation. Main statement: on every reachable graph a run with readable arguments ends
with a summary, and the graph is then known exactly from the graph before, the number of nodes, the
probability and the draws of the seed. Clock, draws and ranks line up: node number `i` comes at time
`i` after the start, the pair of positions `i` and `j` is decided by one draw of its own, and its
time is its rank among the pairs that are selected.
-/

namespace TemporalNetwork.Generation

def everyone (store : Store) (n : Nat) : List NodeId := store.ids ++ newIds store n

/-- How a graph comes out of a run of `n` nodes over the draws of a stream. -/
structure Populated (p : Probability) (stream : Nat → Draw) (n : Nat) (before after : Store) :
    Prop where
  nodeIds : after.ids = everyone before n
  distinct : (everyone before n).Nodup
  newNodes : ∀ i id, (newIds before n)[i]? = some id →
    after.nodeHistory id.toValue = .ok [startTime before + (i + 1)]
  /-- One draw decides a pair, and a selected pair takes the time of its rank. -/
  edges : ∀ i j source target, i ≠ j → (everyone before n)[i]? = some source →
    (everyone before n)[j]? = some target →
    after.edgeTimes source target = before.edgeTimes source target ++
      if p.selects (stream (drawIndex (everyone before n).length (i, j))) then
        [startTime before + n + rank p stream (everyone before n).length (i, j)]
      else []
  loops : ∀ id, after.edge? id id = before.edge? id id
  oldNodes : ∀ id ∈ before.ids, after.bareNode? id = before.bareNode? id
  strangers : ∀ source target, source ∉ everyone before n ∨ target ∉ everyone before n →
    after.edge? source target = none
  /-- Nothing else is inserted. -/
  inserted : after = before.insertAll ((attempts before n).map .arrival ++
    (stamped (startTime before + n) ((sampled p stream (everyone before n).length).map
      (pick (everyone before n)))).map .link)

section Unguarded

variable {p : Probability} {stream : Nat → Draw} {store : Store} {n : Nat}

theorem members_ofStore (store : Store) (n : Nat) :
    members (.ofStore store) n = everyone store n := by
  have all : (newIds store n).filter (fun id => !(GuardedStore.ofStore store).refuses id) =
      newIds store n := List.filter_eq_self.2 fun _ _ => rfl
  exact congrArg (store.ids ++ ·) all

theorem accepted_ofStore (store : Store) (entries : List (Nat × NodeId)) :
    (GuardedStore.ofStore store).accepted entries = entries :=
  List.filter_eq_self.2 fun _ _ => rfl

theorem breaksAt_ofStore (store : Store) (m : Nat) :
    (GuardedStore.ofStore store).breaksAt m = false := rfl

theorem told_ofStore {logging : Logging}
    (lines : logging = .strict → ∀ id ∈ newIds store n, id.fits = true) :
    Told logging (.ofStore store) n where
  words attempt _ refused := by cases refused
  lines strict attempt member := by
    have given := List.mem_map_of_mem (f := Prod.snd) member
    rw [attempts, map_snd_stamped] at given
    exact ⟨lines strict attempt.2 given, fun refused => by cases refused⟩

theorem edge?_eq_none_of_stranger (valid : store.WellFormed) {source target : NodeId}
    (stranger : source ∉ store.ids ∨ target ∉ store.ids) : store.edge? source target = none := by
  rw [Store.edge?_eq]
  rcases stranger with noSource | noTarget
  · rw [Store.node?_eq_none.2 noSource]
    rfl
  · cases found : store.node? source with
    | none => rfl
    | some node =>
      rw [Option.bind_some, Node.edgeTo?_eq_none]
      exact fun linked => noTarget (valid.closed found target linked)

theorem edge?_grown_of_stranger (valid : (GuardedStore.ofStore store).store.WellFormed)
    {source target : NodeId} (stranger : source ∉ everyone store n ∨ target ∉ everyone store n)
    (made : Nat) :
    (grown p stream (.ofStore store) n made).edge? source target = none := by
  have outside : source ∉ store.ids ∨ target ∉ store.ids := by
    rcases stranger with noSource | noTarget
    · exact .inl fun old => noSource (List.mem_append_left _ old)
    · exact .inr fun old => noTarget (List.mem_append_left _ old)
  have apart : (source, target) ∉
      ((links p stream (.ofStore store) n).take made).map Prod.snd := by
    intro member
    obtain ⟨entry, linked, same⟩ := List.mem_map.1 member
    have ends := joins_links valid made entry linked
    rw [ids_peopled valid n, members_ofStore, same] at ends
    rcases stranger with noSource | noTarget
    · exact noSource ends.1
    · exact noTarget ends.2
  have kept := edge?_grown_of_not_mem valid (source, target) apart
  exact kept.trans (edge?_eq_none_of_stranger valid outside)

theorem populated_grown (valid : (GuardedStore.ofStore store).store.WellFormed) :
    Populated p stream n store
      (grown p stream (.ofStore store) n (links p stream (.ofStore store) n).length) where
  nodeIds := by rw [ids_grown p stream valid, members_ofStore]
  distinct := nodup_everyone valid n
  newNodes i id found := by
    have member : (startTime store + i + 1, id) ∈ attempts store n := by
      apply List.mem_of_getElem? (i := i)
      rw [attempts, getElem?_stamped, found]
      rfl
    exact nodeHistory_grown_of_accepted valid _ member rfl
  edges i j source target apart first second := by
    rw [← members_ofStore] at first second ⊢
    exact edgeTimes_grown_whole valid apart first second
  loops id := edge?_grown_self valid _ id
  oldNodes id old := bareNode?_grown_of_old valid _ old
  strangers source target stranger := edge?_grown_of_stranger valid stranger _
  inserted := by
    rw [grown, insertions, List.take_length, accepted_ofStore, links, sampledPairs,
      members_ofStore]
    rfl

theorem run_ofStore (valid : store.WellFormed) {request : Request} {source : Source}
    {resources : Resources} (count : requestedCount request.count = .ok n)
    (probability : Probability.ofValue request.probability = .ok p)
    (draws : Source.ofValue resources request.seed = .ok source) (logging : Logging)
    (lines : logging = .strict → ∀ id ∈ newIds store n, id.fits = true) :
    run resources logging (.ofStore store) request = {
      store := .ofStore (grown p source.stream (.ofStore store) n
        (links p source.stream (.ofStore store) n).length)
      events := nodeEvents (.ofStore store) n
      result := .ok (wholeSummary p source.stream (.ofStore store) n source.seeded) } := by
  have kept : (GuardedStore.ofStore store).store.WellFormed := valid
  have whole := populate_whole p source kept (told_ofStore lines)
    fun m _ => breaksAt_ofStore store (m + 1)
  rw [run_of_source count probability draws, whole]
  rfl

theorem generate_of_source (valid : store.WellFormed) {request : Request} {source : Source}
    {resources : Resources} (count : requestedCount request.count = .ok n)
    (probability : Probability.ofValue request.probability = .ok p)
    (draws : Source.ofValue resources request.seed = .ok source) (logging : Logging)
    (lines : logging = .strict → ∀ id ∈ newIds store n, id.fits = true)
    (last : logging = .strict → (Event.finished
      (wholeSummary p source.stream (.ofStore store) n source.seeded)
      request.probability).fits = true) :
    generate resources logging (.ofStore store) request = {
      store := .ofStore (grown p source.stream (.ofStore store) n
        (links p source.stream (.ofStore store) n).length)
      events := nodeEvents (.ofStore store) n ++ [.finished
        (wholeSummary p source.stream (.ofStore store) n source.seeded) request.probability]
      result := .ok (wholeSummary p source.stream (.ofStore store) n source.seeded) } := by
  have silent : lineFault? logging (.finished
      (wholeSummary p source.stream (.ofStore store) n source.seeded)
      request.probability) = none := by
    cases logging with
    | lenient => rfl
    | strict => rw [lineFault?, if_pos (last rfl)]
  rw [generate, run_ofStore valid count probability draws logging lines]
  simp only [silent]

theorem generate_ofStore (valid : store.WellFormed) {request : Request} {seed : Seed}
    (asks : request.Asks n p seed) (resources : Resources) (logging : Logging)
    (lines : logging = .strict → ∀ id ∈ newIds store n, id.fits = true)
    (last : logging = .strict → (Event.finished
      (wholeSummary p (Source.ofSeed seed).stream (.ofStore store) n true)
      request.probability).fits = true) :
    generate resources logging (.ofStore store) request = {
      store := .ofStore (grown p (Source.ofSeed seed).stream (.ofStore store) n
        (links p (Source.ofSeed seed).stream (.ofStore store) n).length)
      events := nodeEvents (.ofStore store) n ++ [.finished
        (wholeSummary p (Source.ofSeed seed).stream (.ofStore store) n true) request.probability]
      result := .ok (wholeSummary p (Source.ofSeed seed).stream (.ofStore store) n true) } :=
  generate_of_source valid asks.count asks.probability (asks.draws resources) logging lines last

/-- All ids of a graph and its latest time are short enough to be written. -/
def Legible (store : Store) : Prop :=
  (∀ id ∈ store.ids, id.fits = true) ∧ ∀ t, store.latest = some t → Decimal.fits t = true

-- What is logged of a generation is in the graph that comes out of it.
theorem fits_of_legible (valid : store.WellFormed) {source : Source} {probability : Value}
    (fits : probability.fits = true)
    (legible : Legible (grown p source.stream (.ofStore store) n
      (links p source.stream (.ofStore store) n).length)) :
    (∀ id ∈ newIds store n, id.fits = true) ∧
      (Event.finished (wholeSummary p source.stream (.ofStore store) n source.seeded)
        probability).fits = true := by
  obtain ⟨ids, latest⟩ := legible
  constructor
  · intro id new
    apply ids
    have kept : (GuardedStore.ofStore store).store.WellFormed := valid
    rw [ids_grown p source.stream kept, members_ofStore]
    exact List.mem_append_right _ new
  · rw [Event.fits, fits, wholeSummary, Bool.true_and]
    cases clock : (grown p source.stream (.ofStore store) n
        (links p source.stream (.ofStore store) n).length).latest with
    | none => rfl
    | some t => exact latest t clock

/-- Only the request decides a generation from a seed: not what else there is to draw from, and not
how it is logged, where the ids and the latest time are short enough to be written. -/
theorem generate_irrespective (valid : store.WellFormed) {request : Request} {seed : Seed}
    (asks : request.Asks n p seed) (fits : request.probability.fits = true)
    (resources other : Resources) (logging : Logging)
    (ids : ∀ id ∈ (generate resources .lenient (.ofStore store) request).store.store.ids,
      id.fits = true)
    (latest : ∀ t, (generate resources .lenient (.ofStore store) request).store.store.latest =
      some t → Decimal.fits t = true) :
    generate other logging (.ofStore store) request =
      generate resources .lenient (.ofStore store) request := by
  rw [generate_ofStore valid asks resources .lenient nofun nofun] at ids latest ⊢
  obtain ⟨lines, last⟩ := fits_of_legible valid fits ⟨ids, latest⟩
  exact generate_ofStore valid asks other logging (fun _ => lines) fun _ => last

end Unguarded

/-- The law of a generation. A run over a reachable graph ends with a summary; every ordered pair of
different nodes took exactly one draw, and the graph is populated by the stream of the seed. Lenient
logging asks nothing of the ids; under strict logging the lines about them have to be short enough
to be written. -/
theorem run_populates {carries : Value → Prop} {store : Store} (reached : Reachable carries store)
    {request : Request} {n : Nat} {p : Probability} {seed : Seed} (asks : request.Asks n p seed)
    (resources : Resources) (logging : Logging)
    (lines : logging = .strict → ∀ id ∈ newIds store n, id.fits = true) :
    let outcome := run resources logging (.ofStore store) request
    let stream := (Source.ofSeed seed).stream
    let size := (everyone store n).length
    ∃ summary, outcome.result = .ok summary ∧ summary.draws = (size * (size - 1) : Nat) ∧
      summary.nodesAdded = n ∧ summary.edgesAdded = (sampled p stream size).length ∧
      Populated p stream n store outcome.store.store := by
  intro outcome stream size
  have valid : (GuardedStore.ofStore store).store.WellFormed := reached.wellFormed
  have whole := populate_whole p (.ofSeed seed) valid
    (told_ofStore lines) fun m _ => breaksAt_ofStore store (m + 1)
  have ended : outcome = populate logging (.ofStore store) n (.ok p) (.ofSeed seed) :=
    run_eq_populate asks resources logging (.ofStore store)
  rw [ended, whole]
  refine ⟨_, rfl, ?_, ?_, ?_, populated_grown valid⟩
  · simp only [wholeSummary, members_ofStore]
    rfl
  · simp only [wholeSummary, accepted_ofStore]
    rw [attempts, length_stamped, newIds, Allocator.take_length]
  · simp only [wholeSummary]
    rw [links, length_stamped, sampledPairs, List.length_map, members_ofStore]

/-- Two nodes beside an edge from `3` to `5`, with every edge among the four. -/
theorem run_populates_beside_edge :
    let link : Call := .edge
      { time := .int 7, source := .int 3, target := .int 5, properties := .none, type := .none }
    let store := (Store.empty.perform link).1
    let request : Request :=
      { count := .int 2, probability := .int 1, seed := .bytes (List.replicate 32 0) }
    (Reachable (fun _ => True) store ∧ request.Asks 2 (.ofInt 1) .zero ∧
        (Logging.strict = .strict → ∀ id ∈ newIds store 2, id.fits = true)) ∧
      ∃ summary, (run .zero .strict (.ofStore store) request).result = .ok summary ∧
        summary.draws = (4 * 3 : Nat) ∧ summary.nodesAdded = 2 ∧
        summary.edgesAdded =
          (sampled (.ofInt 1) (Source.ofSeed .zero).stream 4).length ∧
        Populated (.ofInt 1) (Source.ofSeed .zero).stream 2 store
          (run .zero .strict (.ofStore store) request).store.store := by
  intro link store request
  have reached : Reachable (fun _ => True) store := .call .empty link trivial
  have asks : request.Asks 2 (.ofInt 1) .zero := ⟨rfl, rfl, rfl⟩
  have lines : Logging.strict = .strict → ∀ id ∈ newIds store 2, id.fits = true := by
    have given : newIds store 2 = [.int 6, .int 7] := by decide
    intro _
    simp [given, NodeId.fits, NodeId.toValue, Value.fits, Decimal.fits_of_lt]
  exact ⟨⟨reached, asks, lines⟩, run_populates reached asks .zero .strict lines⟩

end TemporalNetwork.Generation
