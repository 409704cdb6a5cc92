import TemporalNetwork.Proofs.Generation.EdgePhase
import TemporalNetwork.Proofs.Generation.NodePhase
import TemporalNetwork.Proofs.Seed.Forms

/-!
The insertions of a run. A run that its guard lets through inserts the accepted nodes and then links
the sampled pairs of all nodes, each at the next time; a run that breaks has made the insertions
before the broken one.
-/

namespace TemporalNetwork.Generation

/-- What a request asks for, once its arguments are read. -/
structure Request.Asks (request : Request) (n : Nat) (p : Probability) (seed : Seed) : Prop where
  count : requestedCount request.count = .ok n
  probability : Probability.ofValue request.probability = .ok p
  seed : Seed.coerce Seed.size request.seed = .ok seed

/-! ## Who is there and what is linked -/

section Plan

variable (p : Probability) (stream : Nat → Draw) (guarded : GuardedStore) (n : Nat)

def members (guarded : GuardedStore) (n : Nat) : List NodeId :=
  guarded.store.ids ++ (newIds guarded.store n).filter fun id => !guarded.refuses id

/-- The pairs of nodes that the draws select, row by row. -/
def sampledPairs : List (NodeId × NodeId) :=
  (sampled p stream (members guarded n).length).map (pick (members guarded n))

/-- The links with their times. The times of refused nodes have passed, too. -/
def links : List (Nat × NodeId × NodeId) :=
  stamped (startTime guarded.store + n) (sampledPairs p stream guarded n)

/-- The insertions of a run up to its link number `made`. -/
def insertions (made : Nat) : List Insertion :=
  (guarded.accepted (attempts guarded.store n)).map .arrival ++
    ((links p stream guarded n).take made).map .link

def grown (made : Nat) : Store := guarded.store.insertAll (insertions p stream guarded n made)

def wholeSummary (seeded : Bool) : Summary where
  generator := Generator.erdosRenyi.name
  nodesRequested := n
  nodesAdded := (guarded.accepted (attempts guarded.store n)).length
  edgesAdded := (links p stream guarded n).length
  draws := ((members guarded n).length * ((members guarded n).length - 1) : Nat)
  seeded := seeded
  latestTime := (grown p stream guarded n (links p stream guarded n).length).latest.map
    fun t => (t : Int)

end Plan

section Members

variable {guarded : GuardedStore} {n : Nat}

theorem map_snd_accepted (guarded : GuardedStore) (n : Nat) :
    (guarded.accepted (attempts guarded.store n)).map Prod.snd =
      (newIds guarded.store n).filter fun id => !guarded.refuses id := by
  rw [← map_snd_stamped (startTime guarded.store) (newIds guarded.store n), List.filter_map]
  rfl

-- Old and allocated ids are all different, refused ones included.
theorem nodup_everyone (valid : guarded.store.WellFormed) (n : Nat) :
    (guarded.store.ids ++ newIds guarded.store n).Nodup :=
  ((Allocator.beyond_ofStore valid).take n).2 valid.distinct

theorem nodup_members (valid : guarded.store.WellFormed) (n : Nat) : (members guarded n).Nodup :=
  (nodup_everyone valid n).sublist
    ((List.Sublist.refl guarded.store.ids).append List.filter_sublist)

theorem nodup_arrivals (valid : guarded.store.WellFormed) (n : Nat) :
    (guarded.store.ids ++ (guarded.accepted (attempts guarded.store n)).map Prod.snd).Nodup := by
  rw [map_snd_accepted]
  exact nodup_members valid n

theorem ids_peopled (valid : guarded.store.WellFormed) (n : Nat) :
    (peopled guarded n).ids = members guarded n := by
  rw [peopled, Store.ids_insertAll_arrivals _ _ (nodup_arrivals valid n), map_snd_accepted]
  rfl

end Members

/-! ## The run of the edges -/

variable {p : Probability} {source : Source} {logging : Logging} {guarded : GuardedStore} {n : Nat}

theorem chosen_allPairs (p : Probability) {phase : EdgePhase}
    (valid : phase.store.store.WellFormed) :
    EdgePhase.chosen p phase (allPairs phase.store.store.ids) =
      (sampled p phase.source.stream phase.store.store.ids.length).map
        (pick phase.store.store.ids) :=
  selected_allPairs p phase.source.stream valid.distinct

theorem drawCount_allPairs {ids : List NodeId} (distinct : ids.Nodup) :
    EdgePhase.drawCount (allPairs ids) = ids.length * (ids.length - 1) := by
  rw [EdgePhase.drawCount, filter_allPairs distinct, List.length_map, length_positions]

theorem mem_allPairs {ids : List NodeId} {pair : NodeId × NodeId} :
    pair ∈ allPairs ids ↔ pair.1 ∈ ids ∧ pair.2 ∈ ids := by
  constructor
  · intro member
    obtain ⟨first, inside, row⟩ := List.mem_flatMap.1 member
    obtain ⟨second, also, same⟩ := List.mem_map.1 row
    rw [← same]
    exact ⟨inside, also⟩
  · rintro ⟨inside, also⟩
    exact List.mem_flatMap.2 ⟨pair.1, inside, List.mem_map_of_mem also⟩

theorem within_allPairs (phase : EdgePhase) : phase.Within (allPairs phase.store.store.ids) :=
  fun _ member => mem_allPairs.1 member

def edgeStart (source : Source) (guarded : GuardedStore) (n : Nat) : EdgePhase where
  store := { guarded with store := peopled guarded n }
  source := source
  time := startTime guarded.store + n
  added := 0

theorem chosen_edgeStart (p : Probability) (source : Source) (valid : guarded.store.WellFormed)
    (kept : (peopled guarded n).WellFormed) :
    EdgePhase.chosen p (edgeStart source guarded n) (allPairs (peopled guarded n).ids) =
      sampledPairs p source.stream guarded n := by
  have chosen := chosen_allPairs p
    (show (edgeStart source guarded n).store.store.WellFormed from kept)
  rw [sampledPairs, ← ids_peopled valid n]
  exact chosen

theorem grown_eq (p : Probability) (source : Source) (guarded : GuardedStore) (n made : Nat) :
    (peopled guarded n).insertAll
        ((stamped (startTime guarded.store + n)
          ((sampledPairs p source.stream guarded n).take made)).map .link) =
      grown p source.stream guarded n made := by
  rw [grown, insertions, Store.insertAll_append, links, ← stamped_take]
  rfl

theorem edgeStart_of_done {phase : NodePhase} (done : NodesDone guarded n phase) (source : Source) :
    EdgePhase.mk phase.store source phase.time 0 = edgeStart source guarded n := by
  rw [done.store, done.time]
  rfl

theorem connect_whole (p : Probability) (source : Source) (valid : guarded.store.WellFormed)
    {phase : NodePhase} (done : NodesDone guarded n phase)
    (whole : ∀ m < (links p source.stream guarded n).length, guarded.breaksAt (m + 1) = false) :
    connect phase n (.ok p) source = {
      store := {
        store := grown p source.stream guarded n (links p source.stream guarded n).length
        guard := GuardedStore.counted guarded.guard (links p source.stream guarded n).length }
      events := nodeEvents guarded n
      result := .ok (wholeSummary p source.stream guarded n source.seeded) } := by
  have start := edgeStart_of_done done source
  have chosen := chosen_edgeStart p source valid done.valid
  have size : (links p source.stream guarded n).length =
      (sampledPairs p source.stream guarded n).length := length_stamped _ _
  have final := grown_eq p source guarded n (links p source.stream guarded n).length
  rw [size, List.take_length] at final
  -- The loop goes over the ids as they are after the nodes.
  obtain ⟨last, drawn, run, _⟩ := EdgePhase.tryPairs_eq p
    (edgeStart source guarded n) (allPairs (peopled guarded n).ids) done.valid
    (within_allPairs _) (by
      rw [chosen, ← size]
      exact whole)
  have stands : ((edgeStart source guarded n).after (sampledPairs p source.stream guarded n)
      last).store = {
        store := grown p source.stream guarded n (links p source.stream guarded n).length
        guard := GuardedStore.counted guarded.guard (links p source.stream guarded n).length } := by
    rw [size, ← final]
    rfl
  rw [chosen] at run
  simp only [connect, start]
  rw [show phase.store.store.ids = (peopled guarded n).ids by rw [done.store], run]
  -- The source counts its draws; the difference is what the loop took.
  have count : (last.drawn : Int) - source.drawn =
      ((members guarded n).length * ((members guarded n).length - 1) : Nat) := by
    rw [drawn, drawCount_allPairs done.valid.distinct, ids_peopled valid n]
    simp only [edgeStart]
    omega
  have linked : ((edgeStart source guarded n).after (sampledPairs p source.stream guarded n)
      last).added = (links p source.stream guarded n).length := by
    rw [size]
    exact Nat.zero_add _
  have left : ((edgeStart source guarded n).after (sampledPairs p source.stream guarded n)
      last).source = last := rfl
  simp only [stands, done.events, done.added, linked, left, count, wholeSummary]

theorem connect_broken (p : Probability) (source : Source) (valid : guarded.store.WellFormed)
    {phase : NodePhase} (done : NodesDone guarded n phase)
    {made : Nat} (inside : made < (links p source.stream guarded n).length)
    (breaks : guarded.breaksAt (made + 1) = true) :
    let outcome := connect phase n (.ok p) source
    outcome.store.store = grown p source.stream guarded n made ∧
      outcome.events = nodeEvents guarded n ∧
      outcome.result = .error (.update (.refused .brokenInvariant)) := by
  have start := edgeStart_of_done done source
  have chosen := chosen_edgeStart p source valid done.valid
  obtain ⟨last, run, stands⟩ := EdgePhase.tryPairs_broken p
    (edgeStart source guarded n) (allPairs (peopled guarded n).ids) done.valid
    (within_allPairs _) (m := made) (by
      rw [chosen]
      rwa [links, length_stamped] at inside) breaks
  rw [chosen] at stands
  simp only [connect, start]
  rw [show phase.store.store.ids = (peopled guarded n).ids by rw [done.store], run]
  refine ⟨?_, done.events, rfl⟩
  rw [← grown_eq]
  exact stands

theorem populate_whole (p : Probability) (source : Source) (valid : guarded.store.WellFormed)
    (told : Told logging guarded n)
    (whole : ∀ m < (links p source.stream guarded n).length, guarded.breaksAt (m + 1) = false) :
    populate logging guarded n (.ok p) source = {
      store := {
        store := grown p source.stream guarded n (links p source.stream guarded n).length
        guard := GuardedStore.counted guarded.guard (links p source.stream guarded n).length }
      events := nodeEvents guarded n
      result := .ok (wholeSummary p source.stream guarded n source.seeded) } := by
  obtain ⟨phase, nodes, done⟩ := newNodes_eq valid told
  rw [populate, nodes]
  exact connect_whole p source valid done whole

/-- A run whose guard breaks the insertion after `made` links. -/
theorem populate_broken (p : Probability) (source : Source) (valid : guarded.store.WellFormed)
    (told : Told logging guarded n)
    {made : Nat} (inside : made < (links p source.stream guarded n).length)
    (breaks : guarded.breaksAt (made + 1) = true) :
    let outcome := populate logging guarded n (.ok p) source
    outcome.store.store = grown p source.stream guarded n made ∧
      outcome.events = nodeEvents guarded n ∧
      outcome.result = .error (.update (.refused .brokenInvariant)) := by
  obtain ⟨phase, nodes, done⟩ := newNodes_eq valid told
  rw [populate, nodes]
  exact connect_broken p source valid done inside breaks

/-- A run that ends with a summary has made all its insertions, whatever there was to tell about
them. -/
theorem populate_returned (valid : guarded.store.WellFormed) {summary : Summary}
    (returned : (populate logging guarded n (.ok p) source).result = .ok summary) :
    let outcome := populate logging guarded n (.ok p) source
    outcome.store.store = grown p source.stream guarded n (links p source.stream guarded n).length ∧
      outcome.events = nodeEvents guarded n ∧
      summary = wholeSummary p source.stream guarded n source.seeded ∧
      (peopled guarded n).WellFormed := by
  intro outcome
  have ended : (newNodes logging guarded n).2 = none := by
    rw [populate] at returned
    cases nodes : newNodes logging guarded n with
    | mk phase fault =>
      cases fault with
      | none => rfl
      | some fault => simp [nodes] at returned
  obtain ⟨phase, nodes, done⟩ := newNodes_of_ended valid ended
  have edges : outcome = connect phase n (.ok p) source := by
    simp only [outcome, populate, nodes]
  have answered : outcome.result = .ok summary := returned
  rw [edges] at answered ⊢
  have whole : ∀ m < (links p source.stream guarded n).length,
      guarded.breaksAt (m + 1) = false := by
    intro m inside
    rw [Bool.eq_false_iff]
    intro breaks
    obtain ⟨_, _, failed⟩ := connect_broken p source valid done inside breaks
    exact absurd (answered.symm.trans failed) (by simp)
  rw [connect_whole p source valid done whole] at answered ⊢
  exact ⟨rfl, rfl, (Except.ok.inj answered).symm, done.valid⟩

/-! ## Requests -/

variable {seed : Seed} {request : Request}

-- A seed that can be read is the source, whatever else there is to draw from.
theorem Request.Asks.draws (asks : request.Asks n p seed) (resources : Resources) :
    Source.ofValue resources request.seed = .ok (.ofSeed seed) := by
  have coerced := Seed.coerce_of_room resources.room asks.seed
  cases given : request.seed with
  | none =>
    rw [given] at coerced
    cases coerced
  | _ =>
    rw [given] at coerced
    simp only [Source.ofValue, coerced]
    rfl

theorem run_of_source {resources : Resources} (count : requestedCount request.count = .ok n)
    (probability : Probability.ofValue request.probability = .ok p)
    (draws : Source.ofValue resources request.seed = .ok source) (logging : Logging)
    (guarded : GuardedStore) :
    run resources logging guarded request = populate logging guarded n (.ok p) source := by
  rw [run, draws]
  simp only [count, probability]

-- A request whose arguments can be read is a run from its seed.
theorem run_eq_populate (asks : request.Asks n p seed) (resources : Resources) (logging : Logging)
    (guarded : GuardedStore) :
    run resources logging guarded request = populate logging guarded n (.ok p) (.ofSeed seed) :=
  run_of_source asks.count asks.probability (asks.draws resources) logging guarded

end TemporalNetwork.Generation
