import TemporalNetwork.Proofs.Decimal
import TemporalNetwork.Proofs.Generation.Views
import TemporalNetwork.Proofs.Reachable

/-!
What happens to a run when insertions fail. A node that is refused is logged and left out, and costs
its id and its time all the same; an edge that fails ends the run where it stands. Main statement:
whatever nodes are refused and whichever edge fails, the graph is the one of the unbroken run up to
the failing edge.
-/

namespace TemporalNetwork

namespace GuardedStore

def mended (guarded : GuardedStore) : GuardedStore :=
  { guarded with guard := guarded.guard.map fun guard => { guard with failingEdge := none } }

theorem refuses_mended (guarded : GuardedStore) : guarded.mended.refuses = guarded.refuses := by
  funext id
  rcases guarded with ⟨_, guard⟩
  cases guard <;> rfl

theorem breaksAt_mended (guarded : GuardedStore) (m : Nat) : guarded.mended.breaksAt m = false := by
  rcases guarded with ⟨_, guard⟩
  cases guard <;> rfl

end GuardedStore

namespace Generation

/-- How a run leaves the graph and the log when it has made so many links. -/
structure Aftermath (p : Probability) (stream : Nat → Draw) (guarded : GuardedStore) (n made : Nat)
    (outcome : Outcome) : Prop where
  distinct : (guarded.store.ids ++ newIds guarded.store n).Nodup
  nodeIds : outcome.store.store.ids =
    guarded.store.ids ++ (newIds guarded.store n).filter fun id => !guarded.refuses id
  accepted : ∀ i id, (newIds guarded.store n)[i]? = some id → guarded.refuses id = false →
    outcome.store.store.nodeHistory id.toValue = .ok [startTime guarded.store + (i + 1)]
  refused : ∀ id ∈ newIds guarded.store n, guarded.refuses id = true →
    outcome.store.store.hasNode id.toValue = false
  /-- Each refused node has one line of its own, with its time. -/
  logged : outcome.events.filter (·.level = .error) =
    ((attempts guarded.store n).filter fun attempt => guarded.refuses attempt.2).map
      fun attempt => .nodeRefused attempt.2 attempt.1 (.taken attempt.2.toValue)
  /-- The draws are numbered over the nodes that are there, and the first times are of the nodes that
  were tried. -/
  edges : ∀ i j source target, i ≠ j → (members guarded n)[i]? = some source →
    (members guarded n)[j]? = some target →
    outcome.store.store.edgeTimes source target =
      guarded.store.edgeTimes source target ++
        if p.selects (stream (drawIndex (members guarded n).length (i, j))) = true ∧
            rank p stream (members guarded n).length (i, j) ≤ made then
          [startTime guarded.store + n + rank p stream (members guarded n).length (i, j)]
        else []
  inserted : outcome.store.store = guarded.store.insertAll
    ((guarded.accepted (attempts guarded.store n)).map .arrival ++
      ((links p stream guarded n).take made).map .link)
  clock : outcome.store.store.latest =
    ((insertions p stream guarded n made).map Insertion.time).getLast?.or guarded.store.latest

section Aftermath

variable {p : Probability} {stream : Nat → Draw} {guarded : GuardedStore} {n : Nat}

theorem level_of_refusals (guarded : GuardedStore) (entries : List (Nat × NodeId)) :
    ∀ event ∈ guarded.refusals entries, event.level = .error := by
  intro event member
  obtain ⟨attempt, _, same⟩ := List.mem_map.1 member
  rw [← same]
  rfl

-- Of what a phase of nodes logs, only the refusals are errors.
theorem errors_nodeEvents (guarded : GuardedStore) (n : Nat) :
    (nodeEvents guarded n).filter (·.level = .error) =
      guarded.refusals (attempts guarded.store n) := by
  have all : (guarded.refusals (attempts guarded.store n)).filter (·.level = .error) =
      guarded.refusals (attempts guarded.store n) := by
    rw [List.filter_eq_self]
    intro event member
    simpa using level_of_refusals guarded _ event member
  rw [nodeEvents, List.filter_append, all]
  cases (newIds guarded.store n).getLast? <;> simp [Event.level]

theorem aftermath_of_grown (valid : guarded.store.WellFormed) {made : Nat} {outcome : Outcome}
    (store : outcome.store.store = grown p stream guarded n made)
    (events : outcome.events = nodeEvents guarded n) :
    Aftermath p stream guarded n made outcome where
  distinct := nodup_everyone valid n
  nodeIds := by
    rw [store, ids_grown p stream valid]
    rfl
  accepted i id found free := by
    have member : (startTime guarded.store + i + 1, id) ∈ attempts guarded.store n := by
      apply List.mem_of_getElem? (i := i)
      rw [attempts, getElem?_stamped, found]
      rfl
    rw [store]
    exact nodeHistory_grown_of_accepted valid made member free
  refused id member denied := by
    have absent := not_mem_members_of_refused valid member denied
    rw [← ids_grown p stream valid made, ← store] at absent
    rw [Store.hasNode, Store.nodeNamed?_toValue, Store.node?_eq_none.2 absent]
    rfl
  logged := by
    rw [events, errors_nodeEvents]
    rfl
  edges i j source target apart first second := by
    rw [store]
    exact edgeTimes_grown valid made apart first second
  inserted := store
  clock := by rw [store, latest_grown]

-- Everything that is planned for a run leaves the failing edge out of account.
theorem grown_mended (made : Nat) :
    grown p stream guarded.mended n made = grown p stream guarded n made := by
  simp only [grown, insertions, links, sampledPairs, members, GuardedStore.accepted,
    GuardedStore.refuses_mended]
  rfl

theorem links_mended : links p stream guarded.mended n = links p stream guarded n := by
  simp only [links, sampledPairs, members, GuardedStore.refuses_mended]
  rfl

theorem nodeEvents_mended : nodeEvents guarded.mended n = nodeEvents guarded n := by
  simp only [nodeEvents, GuardedStore.refusals, GuardedStore.accepted,
    GuardedStore.refuses_mended]
  rfl

theorem told_mended {logging : Logging} (told : Told logging guarded n) :
    Told logging guarded.mended n where
  words := by
    rw [GuardedStore.refuses_mended]
    exact told.words
  lines := by
    rw [GuardedStore.refuses_mended]
    exact told.lines

end Aftermath

/-- The failure policy of a generation. The nodes are those of the graph and the accepted ones, with
the ids and the times that they have when nothing is refused. Unless a sampled edge is the one to
break, the run ends with a summary; when it is sampled edge number `m`, its error comes out, and the
graph is that of the unbroken run after the first `m - 1` sampled edges. A refusal of an id that
cannot be written is no refusal but a fault of the guard; `told` leaves it out. -/
theorem run_aftermath {carries : Value → Prop} {guarded : GuardedStore}
    (reached : Reachable carries guarded.store) {request : Request} {n : Nat} {p : Probability}
    {seed : Seed} (asks : request.Asks n p seed) (resources : Resources) {logging : Logging}
    (told : Told logging guarded n) :
    let outcome := run resources logging guarded request
    let unbroken := run resources logging guarded.mended request
    let stream := (Source.ofSeed seed).stream
    let size := (members guarded n).length
    let edges := (links p stream guarded n).length
    (∃ summary, unbroken.result = .ok summary ∧ Aftermath p stream guarded n edges unbroken) ∧
    ((∀ m, 1 ≤ m → m ≤ edges → guarded.breaksAt m = false) →
      ∃ summary, outcome.result = .ok summary ∧ summary.draws = (size * (size - 1) : Nat) ∧
        Aftermath p stream guarded n edges outcome) ∧
    ∀ m, 1 ≤ m → m ≤ edges → guarded.breaksAt m = true →
      outcome.result = .error (.update (.refused .brokenInvariant)) ∧
        Aftermath p stream guarded n (m - 1) outcome := by
  intro outcome unbroken stream size edges
  have valid := reached.wellFormed
  -- The three runs differ in what the guard breaks, not in what is planned.
  have ended : outcome = populate logging guarded n (.ok p) (.ofSeed seed) :=
    run_eq_populate asks resources logging guarded
  refine ⟨?_, ?_, ?_⟩
  · have mended : unbroken = populate logging guarded.mended n (.ok p) (.ofSeed seed) :=
      run_eq_populate asks resources logging guarded.mended
    have whole := populate_whole p (.ofSeed seed)
      (show guarded.mended.store.WellFormed from valid) (told_mended told)
      fun m _ => guarded.breaksAt_mended (m + 1)
    rw [mended, whole]
    refine ⟨_, rfl, aftermath_of_grown valid ?_ nodeEvents_mended⟩
    simp only [links_mended, grown_mended]
    rfl
  · intro whole
    have through := populate_whole p (.ofSeed seed) valid told
      fun m bound => whole (m + 1) (by omega) bound
    rw [ended, through]
    exact ⟨_, rfl, rfl, aftermath_of_grown valid rfl rfl⟩
  · intro m positive bound breaks
    obtain ⟨made, rfl⟩ : ∃ made, m = made + 1 := ⟨m - 1, by omega⟩
    obtain ⟨store, events, result⟩ := populate_broken p (.ofSeed seed) valid told
      bound breaks
    rw [ended]
    exact ⟨result, aftermath_of_grown valid store events⟩

/-- One of three nodes is refused, and the second edge between the other two breaks. -/
theorem run_aftermath_refused_and_broken :
    let guarded : GuardedStore := {
      store := .empty
      guard := some { refused := [.int 1], failingEdge := some 2, edgeCalls := 0 } }
    let request : Request :=
      { count := .int 3, probability := .int 1, seed := .bytes (List.replicate 32 0) }
    (Reachable (fun _ => True) guarded.store ∧ request.Asks 3 (.ofInt 1) .zero ∧
        Told .strict guarded 3 ∧ guarded.breaksAt 2 = true) ∧
      (run .zero .strict guarded request).result = .error (.update (.refused .brokenInvariant)) ∧
      Aftermath (.ofInt 1) (Source.ofSeed .zero).stream guarded 3 1
        (run .zero .strict guarded request) := by
  intro guarded request
  have reached : Reachable (fun _ => True) guarded.store := .empty
  have asks : request.Asks 3 (.ofInt 1) .zero := ⟨rfl, rfl, rfl⟩
  have tried : attempts guarded.store 3 = [(1, .int 0), (2, .int 1), (3, .int 2)] := by decide
  have short : ∀ attempt ∈ attempts guarded.store 3,
      attempt.2.fits = true ∧ Decimal.fits attempt.1 = true := by
    rw [tried]
    simp [NodeId.fits, NodeId.toValue, Value.fits, Decimal.fits_of_lt]
  have told : Told .strict guarded 3 :=
    ⟨fun attempt member _ => (short attempt member).1,
      fun _ attempt member => ⟨(short attempt member).1, fun _ => (short attempt member).2⟩⟩
  have breaks : guarded.breaksAt 2 = true := by decide
  have there : members guarded 3 = [.int 0, .int 2] := by decide
  have two : (links (.ofInt 1) (Source.ofSeed .zero).stream guarded 3).length = 2 := by
    rw [links, length_stamped, sampledPairs, List.length_map, there, sampled,
      List.filter_eq_self.2 fun _ _ => selects_one _, length_positions]
    rfl
  exact ⟨⟨reached, asks, told, breaks⟩,
    (run_aftermath reached asks .zero told).2.2 2 (by decide) (Nat.le_of_eq two.symm) breaks⟩

end Generation

end TemporalNetwork
