import TemporalNetwork.Proofs.Generation.Sampling
import TemporalNetwork.Proofs.Store.Batch
import TemporalNetwork.Proofs.Store.Guard

/-!
The phase of new edges. Every pair of different nodes takes one draw, and every pair that is selected
takes the next time and counts as one insertion of an edge. Unless the guard breaks one of these, all
selected pairs are linked; otherwise those before the broken one are.
-/

namespace TemporalNetwork

namespace GuardedStore

variable {guarded : GuardedStore} {t : Nat} {pair : NodeId × NodeId}

theorem addEdge_broken (breaks : guarded.breaksAt 1 = true) (t : Nat) (pair : NodeId × NodeId) :
    guarded.addEdge (Generation.plainEdge t pair.1 pair.2) =
      ({ guarded with guard := counted guarded.guard 1 }, some (.refused .brokenInvariant)) := by
  rw [addEdge, countEdge_eq, breaks]

theorem addEdge_linked (whole : guarded.breaksAt 1 = false) (valid : guarded.store.WellFormed)
    (source : pair.1 ∈ guarded.store.ids) (target : pair.2 ∈ guarded.store.ids) :
    guarded.addEdge (Generation.plainEdge t pair.1 pair.2) =
      ({ store := guarded.store.insert (.link (t, pair)), guard := counted guarded.guard 1 },
        none) := by
  have inserted : guarded.store.addEdge (Generation.plainEdge t pair.1 pair.2) =
      (guarded.store.insert (.link (t, pair)), none) :=
    Store.perform_plain (Store.accepts_link valid (t, pair) source target) (.inl rfl)
  rw [addEdge, countEdge_eq, whole]
  simp only [inserted]

end GuardedStore

namespace Generation.EdgePhase

variable {p : Probability} {phase : EdgePhase} {pair : NodeId × NodeId}

def after (phase : EdgePhase) (chosen : List (NodeId × NodeId)) (source : Source) : EdgePhase where
  store := {
    store := phase.store.store.insertAll ((stamped phase.time chosen).map .link)
    guard := GuardedStore.counted phase.store.guard chosen.length }
  source := source
  time := phase.time + chosen.length
  added := phase.added + chosen.length

/-! ## One pair -/

theorem tryPair_same (same : pair.1 = pair.2) : tryPair (.ok p) phase pair = (phase, none) := by
  rw [tryPair, if_pos same]

theorem tryPair_passed (apart : pair.1 ≠ pair.2)
    (missed : p.selects (phase.source.stream 0) = false) :
    tryPair (.ok p) phase pair = (phase.after [] phase.source.uniform.2, none) := by
  have unchanged : phase.after [] phase.source.uniform.2 =
      { phase with source := phase.source.uniform.2 } := by
    simp [after, stamped, Store.insertAll, GuardedStore.counted_zero]
  rw [tryPair, if_neg apart, unchanged]
  simp [missed]

theorem tryPair_linked (apart : pair.1 ≠ pair.2) (under : p.selects (phase.source.stream 0) = true)
    (whole : phase.store.breaksAt 1 = false) (valid : phase.store.store.WellFormed)
    (source : pair.1 ∈ phase.store.store.ids) (target : pair.2 ∈ phase.store.store.ids) :
    tryPair (.ok p) phase pair = (phase.after [pair] phase.source.uniform.2, none) := by
  have linked := GuardedStore.addEdge_linked (t := phase.time + 1) whole valid source target
  rw [tryPair, if_neg apart]
  simp only [Source.uniform_draw, under, ↓reduceIte, link, linked]
  rfl

theorem tryPair_broken (apart : pair.1 ≠ pair.2) (under : p.selects (phase.source.stream 0) = true)
    (breaks : phase.store.breaksAt 1 = true) :
    ∃ last : EdgePhase, last.store.store = phase.store.store ∧
      tryPair (.ok p) phase pair = (last, some (.update (.refused .brokenInvariant))) := by
  have broken := GuardedStore.addEdge_broken breaks (phase.time + 1) pair
  refine ⟨{ phase with
    store := { phase.store with guard := GuardedStore.counted phase.store.guard 1 }
    source := phase.source.uniform.2
    time := phase.time + 1 }, rfl, ?_⟩
  rw [tryPair, if_neg apart]
  simp only [Source.uniform_draw, under, ↓reduceIte, link, broken]

/-! ## All pairs -/

theorem after_after (phase : EdgePhase) (first second : List (NodeId × NodeId))
    (source last : Source) :
    (phase.after first source).after second last = phase.after (first ++ second) last := by
  simp only [after, stamped_append, List.map_append, Store.insertAll_append, List.length_append,
    GuardedStore.counted_counted, Nat.add_assoc]

/-- The pairs of different nodes that the draws of a phase select. -/
def chosen (p : Probability) (phase : EdgePhase) (pairs : List (NodeId × NodeId)) :
    List (NodeId × NodeId) :=
  selected p phase.source.stream (pairs.filter fun pair => pair.1 ≠ pair.2)

theorem chosen_same {rest : List (NodeId × NodeId)} (same : pair.1 = pair.2) :
    chosen p phase (pair :: rest) = chosen p phase rest := by
  simp [chosen, same]

theorem chosen_passed {rest : List (NodeId × NodeId)} (apart : pair.1 ≠ pair.2)
    (missed : p.selects (phase.source.stream 0) = false) :
    chosen p phase (pair :: rest) = chosen p (phase.after [] phase.source.uniform.2) rest := by
  simp [chosen, apart, selected, missed, after]
  rfl

theorem chosen_linked {rest : List (NodeId × NodeId)} (apart : pair.1 ≠ pair.2)
    (under : p.selects (phase.source.stream 0) = true) :
    chosen p phase (pair :: rest) =
      pair :: chosen p (phase.after [pair] phase.source.uniform.2) rest := by
  simp [chosen, apart, selected, under, after]
  rfl

def drawCount (pairs : List (NodeId × NodeId)) : Nat :=
  (pairs.filter fun pair => pair.1 ≠ pair.2).length

def Within (phase : EdgePhase) (pairs : List (NodeId × NodeId)) : Prop :=
  ∀ pair ∈ pairs, pair.1 ∈ phase.store.store.ids ∧ pair.2 ∈ phase.store.store.ids

theorem ids_after_single (phase : EdgePhase) (source : Source)
    (first : pair.1 ∈ phase.store.store.ids) (second : pair.2 ∈ phase.store.store.ids) :
    (phase.after [pair] source).store.store.ids = phase.store.store.ids :=
  phase.store.store.ids_insert_link (phase.time + 1, pair) first second

theorem breaksAt_after (phase : EdgePhase) (done : List (NodeId × NodeId)) (source : Source)
    (m : Nat) : (phase.after done source).store.breaksAt m = phase.store.breaksAt (done.length + m) :=
  GuardedStore.breaksAt_counted phase.store _ done.length m

theorem wellFormed_after_single (valid : phase.store.store.WellFormed)
    (first : pair.1 ∈ phase.store.store.ids) (second : pair.2 ∈ phase.store.store.ids)
    (source : Source) : (phase.after [pair] source).store.store.WellFormed :=
  Store.wellFormed_insert valid (Store.accepts_link valid (phase.time + 1, pair) first second)

/-- Unless an insertion is broken, every selected pair is linked. -/
theorem tryPairs_eq (p : Probability) (phase : EdgePhase) (pairs : List (NodeId × NodeId))
    (valid : phase.store.store.WellFormed) (within : phase.Within pairs)
    (whole : ∀ m < (chosen p phase pairs).length, phase.store.breaksAt (m + 1) = false) :
    ∃ source : Source, source.drawn = phase.source.drawn + drawCount pairs ∧
      tryPairs (.ok p) pairs phase = (phase.after (chosen p phase pairs) source, none) ∧
      (phase.after (chosen p phase pairs) source).store.store.WellFormed := by
  -- By induction on the pairs: the rest begins with the phase that the first pair leaves, which is
  -- `phase.after` no pair or one.
  induction pairs generalizing phase with
  | nil =>
    refine ⟨phase.source, rfl, ?_, valid⟩
    simp [tryPairs, chosen, selected, after, stamped, Store.insertAll, GuardedStore.counted_zero]
  | cons pair rest ih =>
    have others : phase.Within rest := fun other member =>
      within other (List.mem_cons_of_mem pair member)
    obtain ⟨first, second⟩ := within pair List.mem_cons_self
    by_cases same : pair.1 = pair.2
    · rw [chosen_same same] at whole ⊢
      obtain ⟨source, drawn, run, kept⟩ := ih phase valid others whole
      refine ⟨source, ?_, ?_, kept⟩
      · simpa [drawCount, same] using drawn
      · rw [tryPairs, tryPair_same same]
        exact run
    · have count : drawCount (pair :: rest) = drawCount rest + 1 := by simp [drawCount, same]
      cases draw : p.selects (phase.source.stream 0) with
      | false =>
        rw [chosen_passed same draw] at whole ⊢
        obtain ⟨source, drawn, run, kept⟩ :=
          ih (phase.after [] phase.source.uniform.2) valid others fun m bound => by
            rw [breaksAt_after, List.length_nil, Nat.zero_add]
            exact whole m bound
        rw [after_after, List.nil_append] at run kept
        refine ⟨source, ?_, ?_, kept⟩
        · rw [drawn, count]
          simp only [after, Source.drawn_uniform]
          omega
        · rw [tryPairs, tryPair_passed same draw]
          exact run
      | true =>
        rw [chosen_linked same draw] at whole ⊢
        have now := whole 0 (by simp)
        have stays := phase.ids_after_single phase.source.uniform.2 first second
        obtain ⟨source, drawn, run, kept⟩ :=
          ih (phase.after [pair] phase.source.uniform.2)
            (wellFormed_after_single valid first second _)
            (fun other member => stays ▸ others other member)
            fun m bound => by
              rw [breaksAt_after, List.length_singleton, Nat.add_comm 1]
              exact whole (m + 1) (by simpa using bound)
        rw [after_after, List.singleton_append] at run kept
        refine ⟨source, ?_, ?_, kept⟩
        · rw [drawn, count]
          simp only [after, Source.drawn_uniform]
          omega
        · rw [tryPairs, tryPair_linked same draw now valid first second]
          exact run

/-- When the insertion after `m` others is broken, these others have been made, and no more. -/
theorem tryPairs_broken (p : Probability) (phase : EdgePhase) (pairs : List (NodeId × NodeId))
    (valid : phase.store.store.WellFormed) (within : phase.Within pairs)
    {m : Nat} (inside : m < (chosen p phase pairs).length)
    (breaks : phase.store.breaksAt (m + 1) = true) :
    ∃ last : EdgePhase,
      tryPairs (.ok p) pairs phase = (last, some (.update (.refused .brokenInvariant))) ∧
      last.store.store = phase.store.store.insertAll
        ((stamped phase.time ((chosen p phase pairs).take m)).map .link) := by
  induction pairs generalizing phase m with
  | nil => simp [chosen, selected] at inside
  | cons pair rest ih =>
    have others : phase.Within rest := fun other member =>
      within other (List.mem_cons_of_mem pair member)
    obtain ⟨first, second⟩ := within pair List.mem_cons_self
    by_cases same : pair.1 = pair.2
    · rw [chosen_same same] at inside ⊢
      obtain ⟨last, run, kept⟩ := ih phase valid others inside breaks
      refine ⟨last, ?_, kept⟩
      rw [tryPairs, tryPair_same same]
      exact run
    · cases draw : p.selects (phase.source.stream 0) with
      | false =>
        rw [chosen_passed same draw] at inside ⊢
        obtain ⟨last, run, kept⟩ :=
          ih (phase.after [] phase.source.uniform.2) valid others inside (by
            rw [breaksAt_after, List.length_nil, Nat.zero_add]
            exact breaks)
        refine ⟨last, ?_, kept⟩
        rw [tryPairs, tryPair_passed same draw]
        exact run
      | true =>
        rw [chosen_linked same draw] at inside ⊢
        -- The insertion to break is this one, or one behind it; then this one is whole, as only one
        -- insertion is broken.
        cases m with
        | zero =>
          obtain ⟨last, kept, run⟩ := tryPair_broken same draw breaks
          refine ⟨last, ?_, kept⟩
          rw [tryPairs, run]
        | succ m =>
          have now : phase.store.breaksAt 1 = false := by
            rw [Bool.eq_false_iff]
            intro early
            have := GuardedStore.breaksAt_unique early breaks
            omega
          have stays := phase.ids_after_single phase.source.uniform.2 first second
          obtain ⟨last, run, kept⟩ :=
            ih (phase.after [pair] phase.source.uniform.2)
              (wellFormed_after_single valid first second _)
              (fun other member => stays ▸ others other member)
              (by simpa using inside)
              (by
                rw [breaksAt_after, List.length_singleton, Nat.add_comm 1]
                exact breaks)
          refine ⟨last, ?_, kept⟩
          rw [tryPairs, tryPair_linked same draw now valid first second]
          exact run

end Generation.EdgePhase

end TemporalNetwork
