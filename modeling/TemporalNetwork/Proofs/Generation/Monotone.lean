import TemporalNetwork.Proofs.Generation.Law
import TemporalNetwork.Proofs.Generation.Probability

/-!
Sampling across graphs. Which pairs of positions a run updates is settled by the number of nodes it
ends with, the stream of the seed and the probability; the ids, the times and the edges that were
there before have no part in it. Main statement: of two runs with as many nodes and one seed, the one
with the greater probability updates every pair of positions that the other does.
-/

namespace TemporalNetwork.Generation

/-- A run updated the edge between the nodes at two positions of the final list. -/
def Updated (before after : Store) (i j : Nat) : Prop :=
  ∃ source target, after.ids[i]? = some source ∧ after.ids[j]? = some target ∧
    after.edgeTimes source target ≠ before.edgeTimes source target

variable {p q : Probability} {stream : Nat → Draw} {before after : Store} {n : Nat}

theorem length_everyone (store : Store) (n : Nat) :
    (everyone store n).length = store.nodeCount + n := by
  rw [everyone, List.length_append, newIds, Allocator.take_length, Store.ids, List.length_map,
    Store.nodeCount]

theorem Populated.edgeTimes_self (populated : Populated p stream n before after) (id : NodeId) :
    after.edgeTimes id id = before.edgeTimes id id := by
  rw [Store.edgeTimes_eq, Store.edgeTimes_eq, populated.loops id]

theorem Populated.updated_iff (populated : Populated p stream n before after) {i j : Nat} :
    Updated before after i j ↔
      (i, j) ∈ sampled p stream (before.nodeCount + n) := by
  rw [← length_everyone, mem_sampled]
  constructor
  · rintro ⟨source, target, first, second, change⟩
    have apart : i ≠ j := by
      rintro rfl
      obtain rfl : source = target := Option.some.inj (first.symm.trans second)
      exact change (populated.edgeTimes_self source)
    rw [populated.nodeIds] at first second
    refine ⟨⟨(List.getElem?_eq_some_iff.1 first).1, (List.getElem?_eq_some_iff.1 second).1,
      Ne.symm apart⟩, ?_⟩
    by_contra missed
    apply change
    rw [populated.edges i j source target apart first second, if_neg missed, List.append_nil]
  · rintro ⟨⟨inside, also, apart⟩, taken⟩
    have first := List.getElem?_eq_getElem inside
    have second := List.getElem?_eq_getElem also
    refine ⟨_, _, by rw [populated.nodeIds]; exact first, by rw [populated.nodeIds]; exact second,
      ?_⟩
    rw [populated.edges i j _ _ (Ne.symm apart) first second, if_pos taken]
    simp

/-! ## Two runs -/

theorem run_updated {store : Store} (valid : store.WellFormed) {request : Request} {seed : Seed}
    (asks : request.Asks n p seed) (resources : Resources) {logging : Logging}
    (lines : logging = .strict → ∀ id ∈ newIds store n, id.fits = true) :
    let outcome := run resources logging (.ofStore store) request
    let chosen := sampled p (Source.ofSeed seed).stream (store.nodeCount + n)
    (∃ summary, outcome.result = .ok summary ∧ summary.edgesAdded = chosen.length) ∧
      ∀ i j, Updated store outcome.store.store i j ↔ (i, j) ∈ chosen := by
  intro outcome chosen
  have done := run_ofStore valid asks.count asks.probability (asks.draws resources) logging lines
  simp only [outcome, done]
  constructor
  · refine ⟨_, rfl, ?_⟩
    simp only [wholeSummary]
    rw [links, length_stamped, sampledPairs, List.length_map, members_ofStore, length_everyone]
  · intro i j
    exact (populated_grown valid).updated_iff

/-- Of two runs that end with as many nodes and have one seed, over any two graphs, the one with the
greater probability updates the pairs of positions that the other does, and with one probability
they update the same. Where the probability is at or below zero or no number, nothing is updated;
where it is at or above one, every pair of two positions is. -/
theorem run_updates_mono {carries also : Value → Prop} {store other : Store}
    (reached : Reachable carries store) (arrived : Reachable also other)
    {request second : Request} {n m : Nat} {p q : Probability} {seed : Seed}
    (asks : request.Asks n p seed) (demands : second.Asks m q seed)
    (size : store.nodeCount + n = other.nodeCount + m) (resources later : Resources)
    {logging telling : Logging}
    (lines : logging = .strict → ∀ id ∈ newIds store n, id.fits = true)
    (words : telling = .strict → ∀ id ∈ newIds other m, id.fits = true) :
    let first := run resources logging (.ofStore store) request
    let last := run later telling (.ofStore other) second
    let total := store.nodeCount + n
    ∃ summary report, first.result = .ok summary ∧ last.result = .ok report ∧
      (p ≤ q → ∀ i j, Updated store first.store.store i j → Updated other last.store.store i j) ∧
      (p ≤ q → q ≤ p →
        ∀ i j, Updated store first.store.store i j ↔ Updated other last.store.store i j) ∧
      (p.Barren → summary.edgesAdded = 0 ∧ ∀ i j, ¬Updated store first.store.store i j) ∧
      (.ofInt 1 ≤ p → summary.edgesAdded = (total * (total - 1) : Nat) ∧
        ∀ i < total, ∀ j < total, i ≠ j → Updated store first.store.store i j) := by
  intro first last total
  obtain ⟨⟨summary, ended, count⟩, here⟩ :=
    run_updated reached.wellFormed asks resources lines
  obtain ⟨⟨report, done, _⟩, there⟩ := run_updated arrived.wellFormed demands later words
  rw [← size] at there
  refine ⟨summary, report, ended, done, ?_, ?_, ?_, ?_⟩
  · intro order i j updated
    exact (there i j).2 (sampled_mono order _ _ ((here i j).1 updated))
  · intro order back i j
    rw [here, there]
    exact ⟨fun member => sampled_mono order _ _ member, fun member => sampled_mono back _ _ member⟩
  · intro barren
    rw [sampled_of_barren barren] at count here
    exact ⟨count, fun i j updated => List.not_mem_nil ((here i j).1 updated)⟩
  · intro order
    rw [sampled_of_one_le order] at count here
    refine ⟨count.trans (congrArg Nat.cast (length_positions total)), ?_⟩
    intro i inside j within apart
    exact (here i j).2 (mem_positions.2 ⟨inside, within, Ne.symm apart⟩)

/-- One half on a graph of numbers and one on a graph of texts with a loop, three nodes each. -/
theorem run_updates_mono_number_text :
    let link : Call := .edge
      { time := .int 7, source := .int 3, target := .int 5, properties := .none, type := .none }
    let loop : Call := .edge
      { time := .int 2, source := .text "a", target := .text "a", properties := .none
        type := .none }
    let store := (Store.empty.perform link).1
    let other := (Store.empty.perform loop).1
    let zero : Value := .bytes (List.replicate 32 0)
    let request : Request := { count := .int 1, probability := .float evenProbability, seed := zero }
    let second : Request := { count := .int 2, probability := .int 1, seed := zero }
    let p := Probability.ofDouble evenProbability
    (Reachable (fun _ => True) store ∧ Reachable (fun _ => True) other ∧
        request.Asks 1 p .zero ∧ second.Asks 2 (.ofInt 1) .zero ∧
        store.nodeCount + 1 = other.nodeCount + 2 ∧
        (Logging.lenient = .strict → ∀ id ∈ newIds store 1, id.fits = true) ∧
        (Logging.lenient = .strict → ∀ id ∈ newIds other 2, id.fits = true)) ∧
      ∃ summary report,
        (run .zero .lenient (.ofStore store) request).result = .ok summary ∧
        (run .zero .lenient (.ofStore other) second).result = .ok report ∧
        (p ≤ .ofInt 1 → ∀ i j,
          Updated store (run .zero .lenient (.ofStore store) request).store.store i j →
          Updated other (run .zero .lenient (.ofStore other) second).store.store i j) ∧
        (p ≤ .ofInt 1 → .ofInt 1 ≤ p → ∀ i j,
          Updated store (run .zero .lenient (.ofStore store) request).store.store i j ↔
          Updated other (run .zero .lenient (.ofStore other) second).store.store i j) ∧
        (p.Barren → summary.edgesAdded = 0 ∧ ∀ i j,
          ¬Updated store (run .zero .lenient (.ofStore store) request).store.store i j) ∧
        (.ofInt 1 ≤ p → summary.edgesAdded = (3 * 2 : Nat) ∧ ∀ i < 3, ∀ j < 3, i ≠ j →
          Updated store (run .zero .lenient (.ofStore store) request).store.store i j) := by
  intro link loop store other zero request second p
  have reached : Reachable (fun _ => True) store := .call .empty link trivial
  have arrived : Reachable (fun _ => True) other := .call .empty loop trivial
  have asks : request.Asks 1 p .zero := ⟨rfl, rfl, rfl⟩
  have demands : second.Asks 2 (.ofInt 1) .zero := ⟨rfl, rfl, rfl⟩
  have size : store.nodeCount + 1 = other.nodeCount + 2 := rfl
  have lines : Logging.lenient = .strict → ∀ id ∈ newIds store 1, id.fits = true :=
    fun strict => by cases strict
  have words : Logging.lenient = .strict → ∀ id ∈ newIds other 2, id.fits = true :=
    fun strict => by cases strict
  exact ⟨⟨reached, arrived, asks, demands, size, lines, words⟩,
    run_updates_mono reached arrived asks demands size .zero .zero lines words⟩

end TemporalNetwork.Generation
