import TemporalNetwork.Proofs.Generation.Continuation
import TemporalNetwork.Proofs.Generation.Law
import TemporalNetwork.Proofs.Generation.Probability

/-!
Splitting a generation. A run at a probability that selects nothing only adds nodes, and a run after
it goes on with the ids and the times where it stopped. Main statement: the two leave the graph that
a single run with the nodes of both leaves.
-/

namespace TemporalNetwork.Generation

variable {p : Probability} {stream : Nat → Draw} {store : Store} {n m : Nat}

/-! ## A run that selects nothing -/

theorem links_of_barren (barren : p.Barren) (stream : Nat → Draw) (guarded : GuardedStore)
    (n : Nat) : links p stream guarded n = [] := by
  rw [links, sampledPairs, sampled_of_barren barren]
  rfl

theorem grown_of_barren (barren : p.Barren) (stream : Nat → Draw) (guarded : GuardedStore)
    (n made : Nat) : grown p stream guarded n made = peopled guarded n := by
  rw [grown, insertions, links_of_barren barren, List.take_nil, List.map_nil, List.append_nil]
  rfl

/-! ## Going on with its nodes -/

theorem peopled_ofStore (store : Store) (n : Nat) :
    peopled (.ofStore store) n = store.insertAll ((attempts store n).map .arrival) := by
  rw [peopled, accepted_ofStore]
  rfl

theorem ids_peopled_ofStore (valid : store.WellFormed) (n : Nat) :
    (peopled (.ofStore store) n).ids = everyone store n := by
  have kept : (GuardedStore.ofStore store).store.WellFormed := valid
  rw [ids_peopled kept n, members_ofStore]

theorem startTime_peopled (store : Store) (n : Nat) :
    startTime (peopled (.ofStore store) n) = startTime store + n := by
  have clock : (grown .undefined (fun _ => 0) (.ofStore store) n 0).latest = _ := latest_grown 0
  rw [grown_of_barren (.inl rfl), times_insertions, accepted_ofStore, List.take_zero, List.map_nil,
    List.append_nil] at clock
  have times : (attempts store n).map Prod.fst = List.range' (startTime store + 1) n := by
    rw [attempts, map_fst_stamped, newIds, Allocator.take_length]
  rw [startTime, clock]
  cases n with
  | zero => rfl
  | succ n =>
    have last : ((attempts store (n + 1)).map Prod.fst).getLast? =
        some (startTime store + (n + 1)) := by
      rw [times, List.range'_concat, List.getLast?_concat]
      congr 1
      omega
    simp only [GuardedStore.ofStore, last, Option.some_or, Option.getD_some]

/-- The attempts of a generation are those of a shorter one and then those of a generation on the
graph that the shorter one leaves. -/
theorem attempts_add (valid : store.WellFormed) (n m : Nat) :
    attempts store (n + m) = attempts store n ++ attempts (peopled (.ofStore store) n) m := by
  have ids := newIds_add valid (ids_peopled_ofStore valid n) m
  have size : (newIds store n).length = n := Allocator.take_length n _
  rw [attempts, ids, stamped_append, size, attempts, attempts, startTime_peopled]

theorem everyone_add (valid : store.WellFormed) (n m : Nat) :
    everyone store (n + m) = everyone (peopled (.ofStore store) n) m := by
  have ids := newIds_add valid (ids_peopled_ofStore valid n) m
  rw [everyone, ids, everyone, ids_peopled_ofStore valid, everyone, List.append_assoc]

theorem peopled_add (valid : store.WellFormed) (n m : Nat) :
    peopled (.ofStore store) (n + m) = peopled (.ofStore (peopled (.ofStore store) n)) m := by
  rw [peopled_ofStore, attempts_add valid, List.map_append, Store.insertAll_append,
    peopled_ofStore _ m, ← peopled_ofStore store n]

/-- The links of the second run are those of the single one: they join the same nodes, and the clock
is at the same time. -/
theorem links_add (valid : store.WellFormed) (p : Probability) (stream : Nat → Draw) (n m : Nat) :
    links p stream (.ofStore store) (n + m) =
      links p stream (.ofStore (peopled (.ofStore store) n)) m := by
  have clock : startTime store + (n + m) = startTime (peopled (.ofStore store) n) + m := by
    rw [startTime_peopled, Nat.add_assoc]
  rw [links, links, sampledPairs, sampledPairs, members_ofStore, members_ofStore,
    everyone_add valid]
  exact congrArg (stamped · _) clock

theorem grown_add (valid : store.WellFormed) (p : Probability) (stream : Nat → Draw)
    (n m made : Nat) :
    grown p stream (.ofStore store) (n + m) made =
      grown p stream (.ofStore (peopled (.ofStore store) n)) m made := by
  rw [grown_split, grown_split, links_add valid, peopled_add valid]

/-! ## Two runs for one -/

/-- A run that selects nothing and then a run of `m` nodes over what it leaves make the graph of one
run with the nodes of both, from the seed of the second. The first one may draw from anything. -/
theorem run_split {carries : Value → Prop} {store : Store} (reached : Reachable carries store)
    {first second single : Request} {n m : Nat} {nothing p : Probability} {seed : Seed}
    {source : Source} {resources : Resources} (count : requestedCount first.count = .ok n)
    (probability : Probability.ofValue first.probability = .ok nothing) (barren : nothing.Barren)
    (draws : Source.ofValue resources first.seed = .ok source) (rest : second.Asks m p seed)
    (asks : single.Asks (n + m) p seed) (later alone : Resources) {logging : Logging}
    (lines : logging = .strict → ∀ id ∈ newIds store (n + m), id.fits = true) :
    let middle := run resources logging (.ofStore store) first
    let final := run later logging middle.store second
    let whole := run alone logging (.ofStore store) single
    (∃ summary, middle.result = .ok summary) ∧ (∃ summary, final.result = .ok summary) ∧
      (∃ summary, whole.result = .ok summary) ∧ final.store = whole.store := by
  intro middle final whole
  have valid := reached.wellFormed
  have ids := newIds_add valid (ids_peopled_ofStore valid n) m
  have begun := run_ofStore valid count probability draws logging fun strict id member =>
    lines strict id (ids ▸ List.mem_append_left _ member)
  rw [grown_of_barren barren] at begun
  have between : (peopled (.ofStore store) n).WellFormed := by
    have start : Reachable carries (GuardedStore.ofStore store).store := reached
    have kept := (start.generation resources logging first).wellFormed
    rwa [begun] at kept
  have done := run_ofStore between rest.count rest.probability (rest.draws later) logging
    fun strict id member => lines strict id (ids ▸ List.mem_append_right _ member)
  have once := run_ofStore valid asks.count asks.probability (asks.draws alone) logging lines
  simp only [final, whole, middle, begun, done, once]
  refine ⟨⟨_, rfl⟩, ⟨_, rfl⟩, ⟨_, rfl⟩, ?_⟩
  rw [grown_add valid, links_add valid]

/-- One node and one node again, beside texts of which two are numerals not far ahead. -/
theorem run_split_beside_numerals :
    let node : Call := .node
      { time := .int 2, id := .text "a", properties := .none, type := .none }
    let link : Call := .edge
      { time := .int 7, source := .text "4", target := .text "5", properties := .none
        type := .none }
    let store := ((Store.empty.perform node).1.perform link).1
    let zero : Value := .bytes (List.replicate 32 0)
    let first : Request := { count := .int 1, probability := .float .nan, seed := .none }
    let second : Request := { count := .int 1, probability := .int 1, seed := zero }
    let single : Request := { count := .int 2, probability := .int 1, seed := zero }
    (Reachable (fun _ => True) store ∧ requestedCount first.count = .ok 1 ∧
        Probability.ofValue first.probability = .ok .undefined ∧
        Probability.undefined.Barren ∧
        Source.ofValue .zero first.seed = .ok (.ofEntropy .zero) ∧
        second.Asks 1 (.ofInt 1) .zero ∧ single.Asks (1 + 1) (.ofInt 1) .zero ∧
        (Logging.lenient = .strict → ∀ id ∈ newIds store (1 + 1), id.fits = true)) ∧
      (∃ summary, (run .zero .lenient (.ofStore store) first).result = .ok summary) ∧
      (∃ summary, (run .zero .lenient (run .zero .lenient (.ofStore store) first).store
        second).result = .ok summary) ∧
      (∃ summary, (run .zero .lenient (.ofStore store) single).result = .ok summary) ∧
      (run .zero .lenient (run .zero .lenient (.ofStore store) first).store second).store =
        (run .zero .lenient (.ofStore store) single).store := by
  intro node link store zero first second single
  have reached : Reachable (fun _ => True) store := .call (.call .empty node trivial) link trivial
  have rest : second.Asks 1 (.ofInt 1) .zero := ⟨rfl, rfl, rfl⟩
  have asks : single.Asks (1 + 1) (.ofInt 1) .zero := ⟨rfl, rfl, rfl⟩
  have lines : Logging.lenient = .strict → ∀ id ∈ newIds store (1 + 1), id.fits = true :=
    fun strict => by cases strict
  exact ⟨⟨reached, rfl, rfl, .inl rfl, rfl, rest, asks, lines⟩,
    run_split reached rfl rfl (.inl rfl) rfl rest asks .zero .zero lines⟩

end TemporalNetwork.Generation
