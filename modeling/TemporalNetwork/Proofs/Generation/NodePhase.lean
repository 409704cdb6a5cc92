import TemporalNetwork.Generation.Run
import TemporalNetwork.Proofs.Generation.Allocation
import TemporalNetwork.Proofs.Store.Batch
import TemporalNetwork.Proofs.Store.Guard

/-!
The phase of new nodes. Every attempt takes the next id and the next time, whatever becomes of it; the
guard decides which attempts are accepted. The phase ends with the accepted nodes inserted and with
one line in the log for each refusal.
-/

namespace TemporalNetwork

namespace GuardedStore

def accepted (guarded : GuardedStore) (attempts : List (Nat × NodeId)) : List (Nat × NodeId) :=
  attempts.filter fun attempt => !guarded.refuses attempt.2

def refusals (guarded : GuardedStore) (attempts : List (Nat × NodeId)) : List Event :=
  (attempts.filter fun attempt => guarded.refuses attempt.2).map fun attempt =>
    .nodeRefused attempt.2 attempt.1 (.taken attempt.2.toValue)

theorem addNode_refused {guarded : GuardedStore} {id : NodeId} (refused : guarded.refuses id = true)
    (t : Nat) :
    guarded.addNode (Generation.plainNode t id) =
      (guarded, some (Refusal.taken id.toValue).fault) := by
  rw [addNode, show (Generation.plainNode t id).id = id.toValue from rfl,
    nodeRefusal?_of_refuses refused]

theorem fault_taken (id : NodeId) :
    (Refusal.taken id.toValue).fault =
      if id.fits = true then .refused (.taken id.toValue) else .digits := rfl

theorem addNode_accepted {guarded : GuardedStore} {id : NodeId}
    (free : guarded.refuses id = false) (admitted : guarded.store.Admits id) (t : Nat) :
    guarded.addNode (Generation.plainNode t id) =
      ({ guarded with store := guarded.store.insert (.arrival (t, id)) }, none) := by
  have silent : guarded.nodeRefusal? id.toValue = none := by
    rw [← Option.not_isSome_iff_eq_none]
    exact Bool.eq_false_iff.1 free
  have inserted : guarded.store.addNode (Generation.plainNode t id) =
      (guarded.store.insert (.arrival (t, id)), none) :=
    Store.perform_plain (show guarded.store.Accepts (.arrival (t, id)) from admitted) (.inl rfl)
  rw [addNode, show (Generation.plainNode t id).id = id.toValue from rfl, silent]
  simp only [inserted]

end GuardedStore

namespace Generation

/-- Every refusal among the attempts can be put into words and into the log. -/
def Tellable (logging : Logging) (guarded : GuardedStore) (attempts : List (Nat × NodeId)) : Prop :=
  ∀ attempt ∈ attempts, guarded.refuses attempt.2 = true →
    attempt.2.fits = true ∧
      lineFault? logging (.nodeRefused attempt.2 attempt.1 (.taken attempt.2.toValue)) = none

namespace NodePhase

variable {logging : Logging} {phase : NodePhase}

def skip (phase : NodePhase) : NodePhase :=
  { phase.allocate with
    events := phase.events ++ [.nodeRefused phase.allocator.next.1 (phase.time + 1)
      (.taken phase.allocator.next.1.toValue)] }

def enroll (phase : NodePhase) : NodePhase :=
  { phase.allocate with
    store := { phase.store with
      store := phase.store.store.insert (.arrival (phase.time + 1, phase.allocator.next.1)) }
    added := phase.added + 1 }

theorem tryNode_refused (refused : phase.store.refuses phase.allocator.next.1 = true)
    (tellable : Tellable logging phase.store [(phase.time + 1, phase.allocator.next.1)]) :
    tryNode logging phase = (phase.skip, none) := by
  obtain ⟨fits, line⟩ := tellable _ List.mem_cons_self refused
  have attempt := GuardedStore.addNode_refused refused (phase.time + 1)
  simp only [tryNode, allocate, attempt, GuardedStore.fault_taken, fits, ↓reduceIte, log, line, skip]

theorem tryNode_accepted (free : phase.store.refuses phase.allocator.next.1 = false)
    (admitted : phase.store.store.Admits phase.allocator.next.1) :
    tryNode logging phase = (phase.enroll, none) := by
  have attempt := GuardedStore.addNode_accepted free admitted (phase.time + 1)
  simp only [tryNode, allocate, attempt, enroll]

-- An attempt that lets the phase go on was accepted, or its refusal was told.
theorem tellable_of_tryNode (goes : (tryNode logging phase).2 = none) :
    Tellable logging phase.store [(phase.time + 1, phase.allocator.next.1)] := by
  intro attempt member refused
  rw [List.mem_singleton.1 member] at refused ⊢
  have answer := GuardedStore.addNode_refused refused (phase.time + 1)
  rw [GuardedStore.fault_taken] at answer
  simp only [tryNode, allocate, answer] at goes
  cases fits : phase.allocator.next.1.fits with
  | false => simp [fits] at goes
  | true =>
    simp only [fits, ↓reduceIte, log] at goes
    refine ⟨rfl, ?_⟩
    cases line : lineFault? logging (.nodeRefused phase.allocator.next.1 (phase.time + 1)
        (.taken phase.allocator.next.1.toValue)) with
    | none => rfl
    | some fault => simp [line] at goes

/-! ## All attempts -/

def attempts (phase : NodePhase) (n : Nat) : List (Nat × NodeId) :=
  stamped phase.time (phase.allocator.take n)

def after (phase : NodePhase) (n : Nat) (allocator : Allocator) : NodePhase where
  store := { phase.store with
    store := phase.store.store.insertAll
      ((phase.store.accepted (phase.attempts n)).map .arrival) }
  allocator := allocator
  last := (phase.allocator.take n).getLast?.or phase.last
  time := phase.time + n
  added := phase.added + (phase.store.accepted (phase.attempts n)).length
  events := phase.events ++ phase.store.refusals (phase.attempts n)

theorem last_after (phase : NodePhase) (n : Nat) :
    (phase.allocator.next.2.take n).getLast?.or (some phase.allocator.next.1) =
      (phase.allocator.take (n + 1)).getLast?.or phase.last := by
  rw [Allocator.take, List.getLast?_cons]
  cases (phase.allocator.next.2.take n).getLast? <;> rfl

theorem after_skip (refused : phase.store.refuses phase.allocator.next.1 = true) (n : Nat)
    (allocator : Allocator) : phase.skip.after n allocator = phase.after (n + 1) allocator := by
  have time : phase.time + 1 + n = phase.time + (n + 1) := by omega
  have last := phase.last_after n
  simp only [after, skip, allocate, attempts, last, time]
  simp [Allocator.take, stamped, GuardedStore.accepted, GuardedStore.refusals, refused]

theorem after_enroll (free : phase.store.refuses phase.allocator.next.1 = false) (n : Nat)
    (allocator : Allocator) : phase.enroll.after n allocator = phase.after (n + 1) allocator := by
  have time : phase.time + 1 + n = phase.time + (n + 1) := by omega
  have last := phase.last_after n
  simp only [after, enroll, allocate, attempts, last, time]
  simp [Allocator.take, stamped, GuardedStore.accepted, GuardedStore.refusals, free,
    GuardedStore.refuses_store, Store.insertAll_cons]
  omega

theorem tryNodes_eq (phase : NodePhase) (n : Nat) (valid : phase.store.store.WellFormed)
    (beyond : phase.allocator.Beyond phase.store.store.ids)
    (tellable : Tellable logging phase.store (phase.attempts n)) :
    ∃ allocator, tryNodes logging n phase = (phase.after n allocator, none) ∧
      (phase.after n allocator).store.store.WellFormed := by
  induction n generalizing phase with
  | zero =>
    refine ⟨phase.allocator, ?_, valid⟩
    simp [tryNodes, after, attempts, Allocator.take, stamped, GuardedStore.accepted,
      GuardedStore.refusals, Store.insertAll]
  | succ n ih =>
    have now : Tellable logging phase.store [(phase.time + 1, phase.allocator.next.1)] := by
      intro attempt member
      rw [List.mem_singleton.1 member]
      exact tellable _ List.mem_cons_self
    have later : Tellable logging phase.store (phase.allocate.attempts n) :=
      fun attempt member => tellable attempt (List.mem_cons_of_mem _ member)
    cases answer : phase.store.refuses phase.allocator.next.1 with
    | true =>
      -- The store stays, so the allocator is beyond one id more than has to be asked.
      have further : phase.skip.allocator.Beyond phase.skip.store.store.ids :=
        beyond.next.subset fun id member => List.mem_append_left _ member
      obtain ⟨allocator, run, kept⟩ := ih phase.skip valid further later
      rw [after_skip answer] at run kept
      refine ⟨allocator, ?_, kept⟩
      rw [tryNodes, tryNode_refused answer now]
      exact run
    | false =>
      have admitted := beyond.admits valid
      -- The store has one id more, and the allocator is beyond that one too.
      have grown : phase.enroll.store.store.ids =
          phase.store.store.ids ++ [phase.allocator.next.1] :=
        Store.ids_insert_arrival _ _ beyond.next_not_mem
      have further : phase.enroll.allocator.Beyond phase.enroll.store.store.ids :=
        grown ▸ beyond.next
      have stays := Store.wellFormed_insert valid (show phase.store.store.Accepts
        (.arrival (phase.time + 1, phase.allocator.next.1)) from admitted)
      obtain ⟨allocator, run, kept⟩ := ih phase.enroll stays further later
      rw [after_enroll answer] at run kept
      refine ⟨allocator, ?_, kept⟩
      rw [tryNodes, tryNode_accepted answer admitted]
      exact run

/-- A phase that goes on to its last attempt has told every refusal. -/
theorem tellable_of_tryNodes (phase : NodePhase) (n : Nat) (valid : phase.store.store.WellFormed)
    (beyond : phase.allocator.Beyond phase.store.store.ids)
    (goes : (tryNodes logging n phase).2 = none) :
    Tellable logging phase.store (phase.attempts n) := by
  induction n generalizing phase with
  | zero =>
    intro attempt member
    cases member
  | succ n ih =>
    rw [tryNodes] at goes
    have ended : (tryNode logging phase).2 = none := by
      cases tried : tryNode logging phase with
      | mk next fault =>
        cases fault with
        | none => rfl
        | some fault => simp [tried] at goes
    have now := tellable_of_tryNode ended
    have both : Tellable logging phase.store (phase.allocate.attempts n) →
        Tellable logging phase.store (phase.attempts (n + 1)) := by
      intro later attempt member
      rcases List.mem_cons.1 member with first | rest
      · exact now attempt (List.mem_singleton.2 first)
      · exact later attempt rest
    apply both
    cases answer : phase.store.refuses phase.allocator.next.1 with
    | true =>
      rw [tryNode_refused answer now] at goes
      exact ih phase.skip valid
        (beyond.next.subset fun id member => List.mem_append_left _ member) goes
    | false =>
      have admitted := beyond.admits valid
      rw [tryNode_accepted answer admitted] at goes
      have grown : phase.enroll.store.store.ids =
          phase.store.store.ids ++ [phase.allocator.next.1] :=
        Store.ids_insert_arrival _ _ beyond.next_not_mem
      exact ih phase.enroll (Store.wellFormed_insert valid (show phase.store.store.Accepts
        (.arrival (phase.time + 1, phase.allocator.next.1)) from admitted)) (grown ▸ beyond.next)
        goes

end NodePhase

/-! ## The whole phase -/

variable {logging : Logging} {guarded : GuardedStore} {n : Nat}

def newIds (store : Store) (n : Nat) : List NodeId := (Allocator.ofStore store).take n

def startTime (store : Store) : Nat := store.latest.getD 0

def attempts (store : Store) (n : Nat) : List (Nat × NodeId) :=
  stamped (startTime store) (newIds store n)

def peopled (guarded : GuardedStore) (n : Nat) : Store :=
  guarded.store.insertAll ((guarded.accepted (attempts guarded.store n)).map .arrival)

def nodeEvents (guarded : GuardedStore) (n : Nat) : List Event :=
  guarded.refusals (attempts guarded.store n) ++
    (newIds guarded.store n).getLast?.toList.map
      (.nodesAdded (guarded.accepted (attempts guarded.store n)).length n)

/-- What is said about the new nodes has no number in it that is too long: a refusal only names the
id, a line in the log has the time too. -/
structure Told (logging : Logging) (guarded : GuardedStore) (n : Nat) : Prop where
  words : ∀ attempt ∈ attempts guarded.store n, guarded.refuses attempt.2 = true →
    attempt.2.fits = true
  lines : logging = .strict → ∀ attempt ∈ attempts guarded.store n,
    attempt.2.fits = true ∧ (guarded.refuses attempt.2 = true → Decimal.fits attempt.1 = true)

theorem Told.tellable (told : Told logging guarded n) :
    Tellable logging guarded (attempts guarded.store n) := by
  intro attempt member refused
  refine ⟨told.words attempt member refused, ?_⟩
  cases logging with
  | lenient => rfl
  | strict =>
    obtain ⟨id, time⟩ := told.lines rfl attempt member
    simp [lineFault?, Event.fits, id, time refused]

theorem Told.closing (told : Told logging guarded n) (added : Nat) {last : NodeId}
    (found : (newIds guarded.store n).getLast? = some last) :
    lineFault? logging (.nodesAdded added n last) = none := by
  cases logging with
  | lenient => rfl
  | strict =>
    have given : last ∈ (attempts guarded.store n).map Prod.snd := by
      rw [attempts, map_snd_stamped]
      exact List.mem_of_getLast? found
    obtain ⟨attempt, member, same⟩ := List.mem_map.1 given
    have fits := (told.lines rfl attempt member).1
    rw [same] at fits
    simp [lineFault?, Event.fits, fits]

/-- What a phase of nodes leaves: the accepted nodes came one by one, at their times, and the refused
ones were told. -/
structure NodesDone (guarded : GuardedStore) (n : Nat) (phase : NodePhase) : Prop where
  store : phase.store = { guarded with store := peopled guarded n }
  time : phase.time = startTime guarded.store + n
  added : phase.added = (guarded.accepted (attempts guarded.store n)).length
  events : phase.events = nodeEvents guarded n
  valid : (peopled guarded n).WellFormed

theorem newNodes_of_tellable (valid : guarded.store.WellFormed)
    (tellable : Tellable logging guarded (attempts guarded.store n))
    (closing : ∀ last, (newIds guarded.store n).getLast? = some last → lineFault? logging
      (.nodesAdded (guarded.accepted (attempts guarded.store n)).length n last) = none) :
    ∃ phase : NodePhase, newNodes logging guarded n = (phase, none) ∧ NodesDone guarded n phase := by
  obtain ⟨allocator, run, kept⟩ := NodePhase.tryNodes_eq (.start guarded) n valid
    (Allocator.beyond_ofStore valid) tellable
  -- The phase starts with nothing, so its parts are all from the attempts.
  have last : ((NodePhase.start guarded).after n allocator).last =
      (newIds guarded.store n).getLast? := Option.or_none
  have added : ((NodePhase.start guarded).after n allocator).added =
      (guarded.accepted (attempts guarded.store n)).length := Nat.zero_add _
  have events : ((NodePhase.start guarded).after n allocator).events =
      guarded.refusals (attempts guarded.store n) := List.nil_append _
  rw [newNodes, run]
  simp only [NodePhase.conclude, last]
  cases found : (newIds guarded.store n).getLast? with
  | none =>
    have silent : nodeEvents guarded n = guarded.refusals (attempts guarded.store n) := by
      simp [nodeEvents, found]
    exact ⟨_, rfl, rfl, rfl, added, events.trans silent.symm, kept⟩
  | some final =>
    have told : nodeEvents guarded n = guarded.refusals (attempts guarded.store n) ++
        [.nodesAdded (guarded.accepted (attempts guarded.store n)).length n final] := by
      simp [nodeEvents, found]
    simp only [NodePhase.log, added, closing final found, events]
    exact ⟨_, rfl, rfl, rfl, rfl, told.symm, kept⟩

/-- The new nodes come one by one, at their times, as far as they are accepted. -/
theorem newNodes_eq (valid : guarded.store.WellFormed) (told : Told logging guarded n) :
    ∃ phase : NodePhase, newNodes logging guarded n = (phase, none) ∧ NodesDone guarded n phase :=
  newNodes_of_tellable valid told.tellable fun _ found => told.closing _ found

theorem newNodes_of_ended (valid : guarded.store.WellFormed)
    (ended : (newNodes logging guarded n).2 = none) :
    ∃ phase : NodePhase, newNodes logging guarded n = (phase, none) ∧ NodesDone guarded n phase := by
  have beyond := Allocator.beyond_ofStore valid
  have goes : (NodePhase.tryNodes logging n (.start guarded)).2 = none := by
    rw [newNodes] at ended
    cases tried : NodePhase.tryNodes logging n (.start guarded) with
    | mk phase fault =>
      cases fault with
      | none => rfl
      | some fault => simp [tried] at ended
  have tellable : Tellable logging guarded (attempts guarded.store n) :=
    NodePhase.tellable_of_tryNodes (.start guarded) n valid beyond goes
  apply newNodes_of_tellable valid tellable
  intro final found
  -- The closing line is about the phase that the attempts have led to.
  obtain ⟨allocator, run, _⟩ := NodePhase.tryNodes_eq (.start guarded) n valid beyond tellable
  have last : ((NodePhase.start guarded).after n allocator).last = some final :=
    Option.or_none.trans found
  have added : ((NodePhase.start guarded).after n allocator).added =
      (guarded.accepted (attempts guarded.store n)).length := Nat.zero_add _
  rw [newNodes, run] at ended
  simp only [NodePhase.conclude, last, NodePhase.log, added] at ended
  cases line : lineFault? logging
      (.nodesAdded (guarded.accepted (attempts guarded.store n)).length n final) with
  | none => rfl
  | some fault => simp [line] at ended

end Generation

end TemporalNetwork
