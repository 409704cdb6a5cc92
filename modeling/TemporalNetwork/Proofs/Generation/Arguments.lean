import TemporalNetwork.Generation.Run
import TemporalNetwork.Proofs.Seed.Forms

/-!
Arguments that are refused. A seed can be no seed in several ways, and a number of nodes no number of
anything in several more, some of which show only after the graph was read; the number is never asked
for its class, so an object of another class may pass for one. Main statement: a generation has a fault
of its arguments exactly if they cannot be read, whatever the graph and the probability are, and then
the graph is as it was and nothing has been logged.
-/

namespace TemporalNetwork.Generation

/-- Whole numbers from zero on; truth values count as numbers. -/
inductive IsCount : Value → Prop
  | int (n : Nat) : IsCount (.int n)
  | bool (truth : Bool) : IsCount (.bool truth)

/-- What is no whole number and passes for one: an object that compares with zero as a number from
there on, that the summary takes for a number, and that stands for an index. -/
inductive PassesForCount : Value → Prop
  | object {traits : Traits} {items : Option (List Value)} {n m i : Int}
      (ordered : traits.ordered? = some n) (nonnegative : 0 ≤ n)
      (taken : Coercion.whole (.object traits items) = .ok m) (index : traits.index? = some i) :
      PassesForCount (.object traits items)

/-- A number of nodes, and a seed if anything is given for one. -/
structure Request.Readable (request : Request) : Prop where
  count : IsCount request.count ∨ PassesForCount request.count
  seed : request.seed = .none ∨ ∃ seed, Seed.coerce Seed.size request.seed = .ok seed

def Fault.OfArguments : Fault → Prop
  | .seed _ | .countKind _ | .negativeCount _ | .countField _ | .countNotIndex _ => True
  | .probabilityKind _ | .update _ | .line => False

/-! ## Reading the arguments -/

theorem exists_countByIndex {count : Value} {negative : Bool} {index : Option Int} :
    (∃ n, countByIndex count negative index = .ok n) ↔
      negative = false ∧ (∃ m, Coercion.whole count = .ok m) ∧ ∃ i, index = some i := by
  unfold countByIndex
  cases negative with
  | true => simp
  | false => cases Coercion.whole count <;> cases index <;> simp

theorem ofArguments_countByIndex {count : Value} {negative : Bool} {index : Option Int}
    {fault : Fault} (failed : countByIndex count negative index = .error fault) :
    fault.OfArguments := by
  unfold countByIndex at failed
  cases negative with
  | true =>
    cases failed
    trivial
  | false =>
    simp only [Bool.false_eq_true, if_false] at failed
    split at failed <;> cases failed <;> trivial

theorem exists_requestedCount {count : Value} :
    (∃ n, requestedCount count = .ok n) ↔ IsCount count ∨ PassesForCount count := by
  constructor
  · rintro ⟨n, read⟩
    cases count with
    | bool truth => exact .inl (.bool truth)
    | int m =>
      simp only [requestedCount] at read
      split at read
      · cases read
      · next whole =>
        obtain ⟨k, rfl⟩ := Int.eq_ofNat_of_zero_le (Int.not_lt.1 whole)
        exact .inl (.int k)
    | float x =>
      obtain ⟨_, _, _, none⟩ := exists_countByIndex.1 ⟨n, read⟩
      cases none
    | object traits items =>
      rw [requestedCount] at read
      split at read
      · cases read
      · next m ordered =>
        obtain ⟨nonnegative, ⟨_, taken⟩, _, index⟩ := exists_countByIndex.1 ⟨n, read⟩
        exact .inr (.object ordered (Int.not_lt.1 (of_decide_eq_false nonnegative)) taken index)
    | _ => cases read
  · rintro ((n | truth) | ⟨ordered, nonnegative, taken, index⟩)
    · have whole : ¬(n : Int) < 0 := by omega
      exact ⟨n, by simp only [requestedCount, if_neg whole, Int.toNat_natCast]⟩
    · exact ⟨_, rfl⟩
    · rw [requestedCount, ordered]
      exact exists_countByIndex.2
        ⟨decide_eq_false (Int.not_lt.2 nonnegative), ⟨_, taken⟩, _, index⟩

theorem ofArguments_requestedCount {count : Value} {fault : Fault}
    (failed : requestedCount count = .error fault) : fault.OfArguments := by
  cases count with
  | bool truth => cases failed
  | int n =>
    simp only [requestedCount] at failed
    split at failed
    · cases failed
      trivial
    · cases failed
  | float x => exact ofArguments_countByIndex failed
  | object traits items =>
    rw [requestedCount] at failed
    split at failed
    · cases failed
      trivial
    · exact ofArguments_countByIndex failed
  | _ =>
    cases failed
    trivial

theorem exists_ofValue (resources : Resources) (value : Value) :
    (∃ source, Source.ofValue resources value = .ok source) ↔
      value = .none ∨ ∃ seed, Seed.coerce Seed.size value = .ok seed := by
  have anyhow : (∃ seed, Seed.coerce Seed.size value = .ok seed) ↔
      ∃ seed, Seed.coerce resources.memory value = .ok seed :=
    exists_congr fun _ =>
      ⟨Seed.coerce_of_room resources.room, Seed.coerce_of_room (Nat.le_refl _)⟩
  rw [anyhow]
  cases value with
  | none => simp [Source.ofValue]
  | _ =>
    simp only [Source.ofValue]
    cases Seed.coerce resources.memory _ <;> simp [Except.map]

/-! ## Faults of the phases -/

section Phases

variable {logging : Logging} {n : Nat} {p : Except Value.Kind Probability} {fault : Fault}

theorem not_ofArguments_lineFault {event : Event}
    (failed : lineFault? logging event = some fault) : ¬fault.OfArguments := by
  cases logging with
  | lenient => cases failed
  | strict =>
    simp only [lineFault?] at failed
    split at failed
    · cases failed
    · cases failed
      exact id

namespace NodePhase

theorem not_ofArguments_log {phase : NodePhase} {event : Event}
    (failed : (phase.log logging event).2 = some fault) : ¬fault.OfArguments := by
  rw [log] at failed
  split at failed
  · cases failed
  · next own line =>
    cases failed
    exact not_ofArguments_lineFault line

theorem not_ofArguments_tryNode {phase : NodePhase}
    (failed : (tryNode logging phase).2 = some fault) : ¬fault.OfArguments := by
  simp only [tryNode] at failed
  split at failed
  · cases failed
  · exact not_ofArguments_log failed
  · cases failed
    exact id

theorem not_ofArguments_tryNodes {phase : NodePhase}
    (failed : (tryNodes logging n phase).2 = some fault) : ¬fault.OfArguments := by
  induction n generalizing phase with
  | zero => cases failed
  | succ n ih =>
    rw [tryNodes] at failed
    split at failed
    · exact ih failed
    · next own tried =>
      cases failed
      exact not_ofArguments_tryNode (congrArg Prod.snd tried)

end NodePhase

theorem not_ofArguments_newNodes {guarded : GuardedStore}
    (failed : (newNodes logging guarded n).2 = some fault) : ¬fault.OfArguments := by
  rw [newNodes] at failed
  split at failed
  · rw [NodePhase.conclude] at failed
    split at failed
    · cases failed
    · exact NodePhase.not_ofArguments_log failed
  · next own tried =>
    cases failed
    exact NodePhase.not_ofArguments_tryNodes (congrArg Prod.snd tried)

namespace EdgePhase

theorem not_ofArguments_tryPair {phase : EdgePhase} {pair : NodeId × NodeId}
    (failed : (tryPair p phase pair).2 = some fault) : ¬fault.OfArguments := by
  rw [tryPair] at failed
  split at failed
  · cases failed
  · cases p with
    | error kind =>
      cases failed
      exact id
    | ok p =>
      simp only [link] at failed
      split at failed
      · split at failed
        · cases failed
        · cases failed
          exact id
      · cases failed

theorem not_ofArguments_tryPairs {phase : EdgePhase} {pairs : List (NodeId × NodeId)}
    (failed : (tryPairs p pairs phase).2 = some fault) : ¬fault.OfArguments := by
  induction pairs generalizing phase with
  | nil => cases failed
  | cons pair rest ih =>
    rw [tryPairs] at failed
    split at failed
    · exact ih failed
    · next own tried =>
      cases failed
      exact not_ofArguments_tryPair (congrArg Prod.snd tried)

end EdgePhase

/-- Once the arguments are read, no later fault is theirs. -/
theorem not_ofArguments_populate {guarded : GuardedStore} {source : Source}
    (failed : (populate logging guarded n p source).result = .error fault) :
    ¬fault.OfArguments := by
  rw [populate] at failed
  split at failed
  · next own made =>
    cases failed
    exact not_ofArguments_newNodes (congrArg Prod.snd made)
  · simp only [connect] at failed
    split at failed
    · next own tried =>
      cases failed
      exact EdgePhase.not_ofArguments_tryPairs (congrArg Prod.snd tried)
    · cases failed

end Phases

/-! ## The whole -/

variable {resources : Resources} {logging : Logging} {guarded : GuardedStore} {request : Request}

theorem run_cases (resources : Resources) (logging : Logging) (guarded : GuardedStore)
    (request : Request) :
    (¬request.Readable ∧ ∃ fault : Fault, fault.OfArguments ∧
        run resources logging guarded request =
          { store := guarded, events := [], result := .error fault }) ∨
      (request.Readable ∧ ∃ n source, run resources logging guarded request =
        populate logging guarded n (Probability.ofValue request.probability) source) := by
  have seeds := exists_ofValue resources request.seed
  rw [run]
  cases drawn : Source.ofValue resources request.seed with
  | error cause =>
    refine .inl ⟨fun readable => ?_, .seed cause, trivial, rfl⟩
    obtain ⟨source, read⟩ := seeds.2 readable.seed
    rw [drawn] at read
    cases read
  | ok source =>
    cases counted : requestedCount request.count with
    | ok n =>
      exact .inr ⟨⟨exists_requestedCount.1 ⟨n, counted⟩, seeds.1 ⟨source, drawn⟩⟩, n, source, rfl⟩
    | error fault =>
      refine .inl ⟨fun readable => ?_, fault, ofArguments_requestedCount counted, rfl⟩
      obtain ⟨n, read⟩ := exists_requestedCount.2 readable.count
      cases counted.symm.trans read

theorem generate_error {fault : Fault}
    (failed : (generate resources logging guarded request).result = .error fault) :
    (run resources logging guarded request).result = .error fault ∨ ¬fault.OfArguments := by
  simp only [generate] at failed
  cases result : (run resources logging guarded request).result with
  | error own =>
    simp only [result] at failed
    exact .inl failed
  | ok summary =>
    simp only [result] at failed
    split at failed
    · cases failed
    · next own line =>
      cases failed
      exact .inr (not_ofArguments_lineFault line)

/-- Arguments that cannot be read are refused before anything changes, logged or not: the whole graph
is as it was, and there is no line. Faults of the arguments come from nothing else, so a fault
after the first insertion is never one of them. What is no number of nodes and is not refused is an
object that passes for one in every place where the number is asked for. -/
theorem generate_of_arguments (resources : Resources) (logging : Logging) (guarded : GuardedStore)
    (request : Request) :
    (¬request.Readable → ∃ fault : Fault, fault.OfArguments ∧
        run resources logging guarded request =
          { store := guarded, events := [], result := .error fault } ∧
        generate resources logging guarded request =
          { store := guarded, events := [], result := .error fault }) ∧
      ((∃ fault : Fault, fault.OfArguments ∧
          (run resources logging guarded request).result = .error fault) ↔ ¬request.Readable) ∧
      ((∃ fault : Fault, fault.OfArguments ∧
          (generate resources logging guarded request).result = .error fault) ↔
        ¬request.Readable) := by
  rcases run_cases resources logging guarded request with
    ⟨unreadable, fault, own, ended⟩ | ⟨readable, n, source, ended⟩
  · have logged : generate resources logging guarded request =
        { store := guarded, events := [], result := .error fault } := by
      simp only [generate, ended]
    refine ⟨fun _ => ⟨fault, own, ended, logged⟩, ?_, ?_⟩
    · exact iff_of_true ⟨fault, own, by rw [ended]⟩ unreadable
    · exact iff_of_true ⟨fault, own, by rw [logged]⟩ unreadable
  · -- With the arguments read, what is left to fail is the phases, and the last line.
    have foreign : ∀ fault : Fault,
        (run resources logging guarded request).result = .error fault → ¬fault.OfArguments := by
      intro fault failed
      rw [ended] at failed
      exact not_ofArguments_populate failed
    refine ⟨fun unreadable => absurd readable unreadable, ?_, ?_⟩
    · refine iff_of_false ?_ (not_not_intro readable)
      rintro ⟨fault, own, failed⟩
      exact foreign fault failed own
    · refine iff_of_false ?_ (not_not_intro readable)
      rintro ⟨fault, own, failed⟩
      exact (generate_error failed).elim (fun early => foreign fault early own) fun late => late own

/-- Two nodes asked for by a double, which shows only at the first node; that the probability is no
number would have shown later. -/
theorem generate_of_arguments_whole_double :
    let guarded := GuardedStore.ofStore (Store.empty.addEdge (plainEdge 3 (.int 1) (.int 2))).1
    let request : Request :=
      { count := .float (.finite false (1 <<< 52) (-51)), probability := .none
        seed := .bytes (List.replicate 32 0) }
    ¬request.Readable ∧
      ∃ fault : Fault, fault.OfArguments ∧
        generate .zero .strict guarded request =
          { store := guarded, events := [], result := .error fault } := by
  intro guarded request
  have unreadable : ¬request.Readable := fun readable => readable.count.elim nofun nofun
  obtain ⟨fault, own, _, same⟩ :=
    (generate_of_arguments .zero .strict guarded request).1 unreadable
  exact ⟨unreadable, fault, own, same⟩

/-- An object that is no whole number, but compares, converts and indexes as the number one: a node is
added for it. -/
theorem generate_of_arguments_foreign_count :
    let traits : Traits :=
      { className := "int64", display := "int64(1)", plain := "1", truth := true, hashable := true
        mark := 1, bytes := none, view := none
        worth := some { number := 1, equal := true, ordered := true, index := true } }
    let request : Request :=
      { count := .object traits none, probability := .float evenProbability, seed := .none }
    let outcome := generate .zero .lenient (.ofStore .empty) request
    ¬IsCount request.count ∧ (∃ summary, outcome.result = .ok summary) ∧
      outcome.store.store.ids = [.int 0] :=
  ⟨nofun, ⟨_, rfl⟩, by decide +kernel⟩

end TemporalNetwork.Generation
