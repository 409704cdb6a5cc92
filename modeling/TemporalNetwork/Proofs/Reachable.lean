import TemporalNetwork.Generation.Run
import TemporalNetwork.Proofs.Store.Guard
import TemporalNetwork.Proofs.Store.WellFormed

/-!
Reachable graphs: those that any calls and any generations make of the empty graph, in any order,
failing ones included. A generation makes its insertions by calls, so a property that no call can
break holds of every reachable graph.
-/

namespace TemporalNetwork

/-- The graphs that can come about when the properties in the calls are of a given form. -/
inductive Reachable (carries : Value → Prop) : Store → Prop
  | empty : Reachable carries .empty
  | call {store : Store} (reached : Reachable carries store) (call : Call)
      (carried : carries call.properties) : Reachable carries (store.perform call).1
  | generation {guarded : GuardedStore} (reached : Reachable carries guarded.store)
      (resources : Resources) (logging : Logging) (request : Generation.Request) :
      Reachable carries (Generation.run resources logging guarded request).store.store

/-! ## A generation makes plain calls -/

/-- A property that no call without properties can break. -/
def Stable (holds : Store → Prop) : Prop :=
  ∀ store call, call.properties = .none → holds store → holds (store.perform call).1

namespace Stable

open Generation

variable {holds : Store → Prop} (stable : Stable holds)
include stable

theorem addNode {guarded : GuardedStore} (before : holds guarded.store) (t : Nat) (id : NodeId) :
    holds (guarded.addNode (plainNode t id)).1.store := by
  rw [GuardedStore.addNode]
  split
  · exact before
  · exact stable guarded.store (.node (plainNode t id)) rfl before

theorem addEdge {guarded : GuardedStore} (before : holds guarded.store) (t : Nat)
    (source target : NodeId) :
    holds (guarded.addEdge (plainEdge t source target)).1.store := by
  have inserted := stable guarded.store (.edge (plainEdge t source target)) rfl before
  rw [GuardedStore.addEdge, GuardedStore.countEdge_eq]
  cases guarded.breaksAt 1 with
  | true => exact before
  | false => exact inserted

omit stable in
theorem log {phase : NodePhase} (before : holds phase.store.store) (logging : Logging)
    (event : Event) : holds (phase.log logging event).1.store.store := by
  rw [NodePhase.log]
  split <;> exact before

theorem tryNode {phase : NodePhase} (before : holds phase.store.store) (logging : Logging) :
    holds (phase.tryNode logging).1.store.store := by
  have attempt := stable.addNode (show holds phase.allocate.store.store from before)
    phase.allocate.time phase.allocator.next.1
  simp only [NodePhase.tryNode]
  split <;> next added =>
    rw [added] at attempt
    first
      | exact attempt
      | exact log attempt logging _

theorem tryNodes (logging : Logging) (n : Nat) {phase : NodePhase}
    (before : holds phase.store.store) :
    holds (NodePhase.tryNodes logging n phase).1.store.store := by
  induction n generalizing phase with
  | zero => exact before
  | succ n ih =>
    have step := stable.tryNode before logging
    rw [NodePhase.tryNodes]
    split
    · next tried =>
      rw [tried] at step
      exact ih step
    · next tried =>
      rw [tried] at step
      exact step

theorem newNodes (logging : Logging) (n : Nat) {guarded : GuardedStore}
    (before : holds guarded.store) : holds (newNodes logging guarded n).1.store.store := by
  have step := stable.tryNodes logging n
    (show holds (NodePhase.start guarded).store.store from before)
  rw [Generation.newNodes]
  split
  · next tried =>
    rw [tried] at step
    rw [NodePhase.conclude]
    split
    · exact step
    · exact log step logging _
  · next tried =>
    rw [tried] at step
    exact step

theorem tryPair (p : Except Value.Kind Probability) {phase : EdgePhase}
    (before : holds phase.store.store) (pair : NodeId × NodeId) :
    holds (EdgePhase.tryPair p phase pair).1.store.store := by
  have attempt := stable.addEdge before (phase.time + 1) pair.1 pair.2
  rw [EdgePhase.tryPair]
  split
  · exact before
  · simp only
    split
    · exact before
    · split
      · simp only [EdgePhase.link]
        split <;> next added =>
          rw [added] at attempt
          exact attempt
      · exact before

theorem tryPairs (p : Except Value.Kind Probability) (pairs : List (NodeId × NodeId))
    {phase : EdgePhase} (before : holds phase.store.store) :
    holds (EdgePhase.tryPairs p pairs phase).1.store.store := by
  induction pairs generalizing phase with
  | nil => exact before
  | cons pair rest ih =>
    have step := stable.tryPair p before pair
    rw [EdgePhase.tryPairs]
    split
    · next tried =>
      rw [tried] at step
      exact ih step
    · next tried =>
      rw [tried] at step
      exact step

theorem run {guarded : GuardedStore} (before : holds guarded.store) (resources : Resources)
    (logging : Logging) (request : Request) :
    holds (Generation.run resources logging guarded request).store.store := by
  rw [Generation.run]
  split
  · exact before
  · next source _ =>
    split
    · exact before
    · next n _ =>
      have nodes := stable.newNodes logging n before
      rw [populate]
      split
      · next phase _ done =>
        rw [done] at nodes
        exact nodes
      · next phase done =>
        rw [done] at nodes
        let start : EdgePhase := { store := phase.store, source, time := phase.time, added := 0 }
        have edges := stable.tryPairs (Probability.ofValue request.probability)
          (allPairs phase.store.store.ids) (show holds start.store.store from nodes)
        rw [connect]
        split <;> next tried =>
          rw [tried] at edges
          exact edges

end Stable

theorem Generation.generate_store (resources : Resources) (logging : Logging) (guarded : GuardedStore)
    (request : Request) :
    (generate resources logging guarded request).store =
      (run resources logging guarded request).store := by
  simp only [generate]
  split
  · rfl
  · split <;> rfl

/-- Whatever holds of the empty graph, and no call that may be made can break, holds of every
reachable graph. -/
theorem Reachable.invariant {carries : Value → Prop} {holds : Store → Prop}
    (nothing : carries .none) (empty : holds .empty)
    (step : ∀ store call, carries call.properties → holds store → holds (store.perform call).1)
    {store : Store} (reached : Reachable carries store) : holds store := by
  -- A generation makes calls without properties, which are among those that may be made.
  have stable : Stable holds := fun store call plain before =>
    step store call (plain ▸ nothing) before
  induction reached with
  | empty => exact empty
  | call _ call carried ih => exact step _ call carried ih
  | generation _ resources logging request ih => exact stable.run ih resources logging request

theorem Reachable.mono {carries also : Value → Prop} (weaker : ∀ value, carries value → also value)
    {store : Store} (reached : Reachable carries store) : Reachable also store := by
  induction reached with
  | empty => exact .empty
  | call _ call carried ih => exact .call ih call (weaker _ carried)
  | generation _ resources logging request ih => exact .generation ih resources logging request

theorem Reachable.wellFormed {carries : Value → Prop} {store : Store}
    (reached : Reachable carries store) : store.WellFormed := by
  have anyhow : Reachable (fun _ => True) store := reached.mono fun _ _ => trivial
  exact anyhow.invariant trivial Store.wellFormed_empty fun _ call _ valid =>
    Store.wellFormed_perform valid call

end TemporalNetwork
