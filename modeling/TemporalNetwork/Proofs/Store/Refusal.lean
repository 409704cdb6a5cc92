import TemporalNetwork.Proofs.Decimal
import TemporalNetwork.Proofs.Reachable

/-!
Refusals. The checks of a call come one after the other, and the first that fails speaks for all. Main
statement: a graph refuses a call exactly if there is something to hold against it, in its time, in
one of its ids or between its ids and the nodes that are there, and whatever it refuses leaves it as
it was. A refusal with too long a number in its words ends as a failure to write that number.
-/

namespace TemporalNetwork

namespace Call

def ids : Call → List Value
  | .node update => [update.id]
  | .edge update => [update.source, update.target]

end Call

theorem Insertion.ids_call (insertion : Insertion) :
    insertion.call.ids = insertion.mentions.map NodeId.toValue := by
  cases insertion <;> rfl

theorem NodeId.kind_toValue (id : NodeId) : id.toValue.kind = .int ∨ id.toValue.kind = .text := by
  cases id with
  | int n => exact .inl rfl
  | text s => exact .inr rfl

namespace Store

/-- What can be held against a call: a time that is no number or negative, an id that is neither a
number nor a text, an id of another kind than a node, ends of different kinds. -/
inductive Objection (store : Store) (call : Call) : Prop
  | timeKind (other : call.time.kind ≠ .int)
  | negativeTime (n : Int) (time : call.time = .int n) (below : n < 0)
  | idKind (value : Value) (named : value ∈ call.ids) (number : value.kind ≠ .int)
      (text : value.kind ≠ .text)
  | foreignId (id known : NodeId) (named : id.toValue ∈ call.ids) (member : known ∈ store.ids)
      (other : id.kind ≠ known.kind)
  | mixedEndpoints (source target : NodeId) (ends : call.ids = [source.toValue, target.toValue])
      (other : source.kind ≠ target.kind)

/-! ## Single checks -/

inductive TimeFault (time : Value) : Refusal → Prop
  | kind (other : time.kind ≠ .int) : TimeFault time (.timeKind time.kind)
  | negative (n : Int) (same : time = .int n) (below : n < 0) : TimeFault time (.negativeTime n)

inductive IdFault (store : Store) (value : Value) : Refusal → Prop
  | kind (number : value.kind ≠ .int) (text : value.kind ≠ .text) :
      IdFault store value (.idKind value.kind)
  | foreign (id : NodeId) (expected : NodeId.Kind) (same : value = id.toValue)
      (settled : store.kind? = some expected) (other : id.kind ≠ expected) :
      IdFault store value (.foreignId id expected)

variable {store : Store} {call : Call} {refusal : Refusal}

theorem checkTime_eq_error {time : Value} :
    checkTime time = .error refusal ↔ TimeFault time refusal := by
  constructor
  · intro failed
    cases time with
    | int n =>
      simp only [checkTime] at failed
      split at failed
      · next below =>
        cases failed
        exact .negative n rfl below
      · cases failed
    | _ =>
      cases failed
      exact .kind (by simp [Value.kind])
  · rintro (other | ⟨n, rfl, below⟩)
    · cases time with
      | int n => exact absurd rfl other
      | _ => rfl
    · simp [checkTime, below]

theorem checkKind_eq_error {id : NodeId} :
    store.checkKind id = .error refusal ↔
      ∃ expected, store.kind? = some expected ∧ id.kind ≠ expected ∧
        refusal = .foreignId id expected := by
  rw [checkKind]
  cases store.kind? with
  | none => simp
  | some expected =>
    by_cases fits : id.kind = expected
    · simp [fits]
    · simp [fits, Ne.symm fits, eq_comm]

theorem checkId_toValue (store : Store) (id : NodeId) :
    store.checkId id.toValue = store.checkKind id := by
  cases id <;> rfl

theorem checkId_eq_error {value : Value} :
    store.checkId value = .error refusal ↔ store.IdFault value refusal := by
  constructor
  · intro failed
    cases value with
    | int n =>
      obtain ⟨expected, settled, other, rfl⟩ := checkKind_eq_error.1 failed
      exact .foreign (.int n) expected rfl settled other
    | text s =>
      obtain ⟨expected, settled, other, rfl⟩ := checkKind_eq_error.1 failed
      exact .foreign (.text s) expected rfl settled other
    | _ =>
      cases failed
      exact .kind (by simp [Value.kind]) (by simp [Value.kind])
  · rintro (⟨number, text⟩ | ⟨id, expected, rfl, settled, other⟩)
    · cases value with
      | int n => exact absurd rfl number
      | text s => exact absurd rfl text
      | _ => rfl
    · rw [checkId_toValue]
      exact checkKind_eq_error.2 ⟨expected, settled, other, rfl⟩

/-! ## The first check that fails -/

def Passes (store : Store) (values : List Value) : Prop :=
  ∀ value ∈ values, ∃ id : NodeId, value = id.toValue ∧ store.Admits id

/-- A check of a call fails, after all checks before it were passed. -/
inductive Finds (store : Store) (call : Call) : Refusal → Prop
  | time {refusal : Refusal} (fault : TimeFault call.time refusal) : Finds store call refusal
  | id {refusal : Refusal} (t : Nat) (time : call.time = .int t) (passed rest : List Value)
      (value : Value) (ids : call.ids = passed ++ value :: rest) (before : store.Passes passed)
      (fault : store.IdFault value refusal) : Finds store call refusal
  | ends (t : Nat) (time : call.time = .int t) (source target : NodeId)
      (ids : call.ids = [source.toValue, target.toValue]) (before : store.Passes call.ids)
      (other : source.kind ≠ target.kind) : Finds store call (.mixedEndpoints source target)

theorem checkNode_eq_error {update : NodeUpdate} :
    store.checkNode update = .error refusal ↔ store.Finds (.node update) refusal := by
  constructor
  · intro failed
    rw [checkNode] at failed
    split at failed
    · next timed =>
      cases failed
      exact .time (checkTime_eq_error.1 timed)
    · next t timed =>
      split at failed
      · next named =>
        cases failed
        exact .id t (checkTime_eq_ok.1 timed) [] [] update.id rfl (List.forall_mem_nil _)
          (checkId_eq_error.1 named)
      · cases failed
  · rintro (fault | ⟨t, time, passed, rest, value, ids, before, fault⟩ | ⟨_, _, _, _, ids, _, _⟩)
    · have timed : checkTime update.time = .error refusal := checkTime_eq_error.2 fault
      simp only [checkNode, timed]
    · have only : passed = [] ∧ value = update.id := by
        cases passed with
        | nil => exact ⟨rfl, (List.cons.inj ids).1.symm⟩
        | cons => simp [Call.ids] at ids
      have timed : checkTime update.time = .ok t := checkTime_eq_ok.2 time
      rw [only.2] at fault
      simp only [checkNode, timed, checkId_eq_error.2 fault]
    · simp [Call.ids] at ids

theorem finds_of_checkEdge {update : EdgeUpdate} (failed : store.checkEdge update = .error refusal) :
    store.Finds (.edge update) refusal := by
  rw [checkEdge] at failed
  split at failed
  · next timed =>
    cases failed
    exact .time (checkTime_eq_error.1 timed)
  next t timed =>
  have time : (Call.edge update).time = .int t := checkTime_eq_ok.1 timed
  split at failed
  · next named =>
    cases failed
    exact .id t time [] [update.target] update.source rfl (List.forall_mem_nil _)
      (checkId_eq_error.1 named)
  next source first =>
  have fromPasses := checkId_eq_ok.1 first
  split at failed
  · next named =>
    cases failed
    have before : store.Passes [update.source] :=
      List.forall_mem_singleton.2 ⟨source, fromPasses⟩
    exact .id t time [update.source] [] update.target rfl before (checkId_eq_error.1 named)
  next target second =>
  have toPasses := checkId_eq_ok.1 second
  split at failed
  · cases failed
  · next other =>
    cases failed
    have both : store.Passes [update.source, update.target] :=
      List.forall_mem_cons.2 ⟨⟨source, fromPasses⟩,
        List.forall_mem_singleton.2 ⟨target, toPasses⟩⟩
    have ids : (Call.edge update).ids = [source.toValue, target.toValue] := by
      rw [Call.ids, fromPasses.1, toPasses.1]
    exact .ends t time source target ids both other

theorem checkEdge_of_finds {update : EdgeUpdate} (found : store.Finds (.edge update) refusal) :
    store.checkEdge update = .error refusal := by
  rcases found with fault | ⟨t, time, passed, rest, value, ids, before, fault⟩ |
    ⟨t, time, source, target, ids, before, other⟩
  · have timed : checkTime update.time = .error refusal := checkTime_eq_error.2 fault
    simp only [checkEdge, timed]
  · have timed : checkTime update.time = .ok t := checkTime_eq_ok.2 time
    -- The id that fails is the first one, or the second behind a first one that passes.
    cases passed with
    | nil =>
      cases ids
      simp only [checkEdge, timed, checkId_eq_error.2 fault]
    | cons first more =>
      obtain ⟨same, behind⟩ := List.cons.inj ids
      obtain ⟨source, fromPasses⟩ := before first List.mem_cons_self
      rw [← same] at fromPasses
      cases more with
      | nil =>
        cases behind
        simp only [checkEdge, timed, checkId_eq_ok.2 fromPasses, checkId_eq_error.2 fault]
      | cons => simp at behind
  · have admitted : ∀ id : NodeId, id.toValue ∈ (Call.edge update).ids → store.Admits id := by
      intro id named
      obtain ⟨found, same, admitted⟩ := before id.toValue named
      rwa [NodeId.toValue_injective same]
    have timed : checkTime update.time = .ok t := checkTime_eq_ok.2 time
    obtain ⟨first, behind⟩ := List.cons.inj ids
    have second := (List.cons.inj behind).1
    have fromPasses := checkId_eq_ok.2 ⟨first, admitted source (ids ▸ List.mem_cons_self)⟩
    have toPasses := checkId_eq_ok.2 ⟨second, admitted target (by simp [ids])⟩
    simp only [checkEdge, timed, fromPasses, toPasses, other, ↓reduceIte]

theorem checkEdge_eq_error {update : EdgeUpdate} :
    store.checkEdge update = .error refusal ↔ store.Finds (.edge update) refusal :=
  ⟨finds_of_checkEdge, checkEdge_of_finds⟩

/-! ## Refused calls -/

theorem perform_of_finds (found : store.Finds call refusal) :
    store.perform call = (store, some refusal.fault) := by
  cases call with
  | node update => simp only [perform, addNode, checkNode_eq_error.2 found]
  | edge update => simp only [perform, addEdge, checkEdge_eq_error.2 found]

-- The first check that fails is one, so there is one refusal at most.
theorem Finds.unique {other : Refusal} (found : store.Finds call refusal)
    (also : store.Finds call other) : refusal = other := by
  cases call with
  | node update =>
    have failed := checkNode_eq_error.2 found
    rw [checkNode_eq_error.2 also] at failed
    exact (Except.error.inj failed).symm
  | edge update =>
    have failed := checkEdge_eq_error.2 found
    rw [checkEdge_eq_error.2 also] at failed
    exact (Except.error.inj failed).symm

/-- A call fails a check, or passes them all as an insertion that the store accepts. -/
theorem finds_or_accepts (store : Store) (call : Call) :
    (∃ refusal, store.Finds call refusal) ∨
      ∃ insertion : Insertion, call = insertion.call ∧ store.Accepts insertion := by
  cases call with
  | node update =>
    cases checked : store.checkNode update with
    | error refusal => exact .inl ⟨refusal, checkNode_eq_error.1 checked⟩
    | ok found => exact .inr ⟨_, accepts_of_checkNode checked⟩
  | edge update =>
    cases checked : store.checkEdge update with
    | error refusal => exact .inl ⟨refusal, checkEdge_eq_error.1 checked⟩
    | ok found => exact .inr ⟨_, accepts_of_checkEdge checked⟩

-- An accepted call may fail over its properties, and over nothing else.
theorem perform_call_fault {insertion : Insertion} (accepted : store.Accepts insertion) :
    (store.perform insertion.call).2 = none ∨
      ∃ fault, (store.perform insertion.call).2 = some (.properties fault) := by
  rw [perform_call accepted]
  rcases store.place insertion with ⟨after, _ | fault⟩
  · exact .inl rfl
  · exact .inr ⟨fault, rfl⟩

/-! ## What is found is what can be held against a call -/

theorem objection_of_finds (valid : store.WellFormed) (found : store.Finds call refusal) :
    store.Objection call := by
  rcases found with fault | ⟨t, time, passed, rest, value, ids, before, fault⟩ |
    ⟨t, time, source, target, ids, before, other⟩
  · rcases fault with other | ⟨n, same, below⟩
    · exact .timeKind other
    · exact .negativeTime n same below
  · have named : value ∈ call.ids := by simp [ids]
    rcases fault with ⟨number, text⟩ | ⟨id, expected, rfl, settled, other⟩
    · exact .idKind value named number text
    · -- The kind that the graph has settled on is the kind of its first node.
      rw [valid.kindSettled] at settled
      obtain ⟨known, first, rfl⟩ := Option.map_eq_some_iff.1 settled
      exact .foreignId id known named (List.mem_of_head? first) other
  · exact .mixedEndpoints source target ids other

theorem not_objection_of_accepts (valid : store.WellFormed) {insertion : Insertion}
    (accepted : store.Accepts insertion) : ¬store.Objection insertion.call := by
  obtain ⟨withKnown, among⟩ := kinds_agree valid accepted
  rintro (other | ⟨n, time, below⟩ | ⟨value, named, number, text⟩ |
    ⟨id, known, named, member, other⟩ | ⟨source, target, ends, other⟩)
  · exact other (congrArg Value.kind insertion.time_call)
  · rw [insertion.time_call] at time
    cases time
    omega
  · rw [insertion.ids_call] at named
    obtain ⟨id, _, rfl⟩ := List.mem_map.1 named
    rcases id.kind_toValue with same | same
    · exact number same
    · exact text same
  · rw [insertion.ids_call] at named
    obtain ⟨mentioned, member', same⟩ := List.mem_map.1 named
    rw [NodeId.toValue_injective same] at member'
    exact other (withKnown id member' known member)
  · have both : insertion.mentions = [source, target] := by
      have alike := insertion.ids_call.symm.trans ends
      exact (List.map_inj_right fun _ _ => NodeId.toValue_injective).1 alike
    exact other (among source (by simp [both]) target (by simp [both]))

/-! ## Refusals without words -/

/-- The refusal that is due cannot be put into words: a number in them is too long to be written. -/
def Wordless (store : Store) (call : Call) : Prop :=
  ∃ refusal, store.Finds call refusal ∧ refusal.fits = false

theorem Finds.wordless_iff (found : store.Finds call refusal) :
    store.Wordless call ↔ refusal.fits = false := by
  constructor
  · rintro ⟨other, also, long⟩
    rwa [found.unique also]
  · exact fun long => ⟨refusal, found, long⟩

theorem exists_long_of_id {id : NodeId} (long : id.fits = false) :
    ∃ n, id.toValue = .int n ∧ Decimal.fits n = false := by
  cases id with
  | int n => exact ⟨n, rfl, long⟩
  | text s => cases long

/-- Only a number among the arguments that is itself too long leaves a refusal without words. -/
theorem Wordless.exists_long (wordless : store.Wordless call) :
    ∃ n, .int n ∈ call.time :: call.ids ∧ Decimal.fits n = false := by
  obtain ⟨refusal, found, long⟩ := wordless
  rcases found with fault | ⟨t, time, passed, rest, value, ids, before, fault⟩ |
    ⟨t, time, source, target, ids, before, other⟩
  · rcases fault with other | ⟨n, same, below⟩
    · cases long
    · exact ⟨n, same ▸ List.mem_cons_self, long⟩
  · rcases fault with ⟨number, text⟩ | ⟨id, expected, rfl, settled, other⟩
    · cases long
    · obtain ⟨n, same, beyond⟩ := exists_long_of_id long
      exact ⟨n, by simp [ids, same], beyond⟩
  · rcases Bool.and_eq_false_iff.1 long with first | second
    · obtain ⟨n, same, beyond⟩ := exists_long_of_id first
      exact ⟨n, by simp [ids, same], beyond⟩
    · obtain ⟨n, same, beyond⟩ := exists_long_of_id second
      exact ⟨n, by simp [ids, same], beyond⟩

theorem wordless_of_time {n : Int} (time : call.time = .int n) (below : n < 0)
    (long : Decimal.fits n = false) : store.Wordless call :=
  ⟨_, .time (.negative n time below), long⟩

/-! ## Every call -/

-- As long as there is no node, no kind is settled and every id is admitted.
theorem admits_of_ids_eq_nil (valid : store.WellFormed) (bare : store.ids = []) (id : NodeId) :
    store.Admits id := by
  intro kind settled
  rw [valid.kindSettled, bare] at settled
  cases settled

/-- A graph refuses a call exactly if there is something to hold against it and a refusal can be put
into words; where a number in the words is too long to be written, the failure is one of writing it.
Either way the graph stays as it was, an empty one open to ids of either kind. -/
theorem perform_refused {carries : Value → Prop} {store : Store} (reached : Reachable carries store)
    (call : Call) :
    ((∃ refusal, (store.perform call).2 = some (.refused refusal)) ↔
        store.Objection call ∧ ¬store.Wordless call) ∧
      ((store.perform call).2 = some .digits ↔ store.Wordless call) ∧
      (store.Wordless call → store.Objection call) ∧
      (store.Objection call → (store.perform call).1 = store ∧
        (store.ids = [] → ∀ id, (store.perform call).1.Admits id)) := by
  have valid := reached.wellFormed
  rcases store.finds_or_accepts call with ⟨refusal, found⟩ | ⟨insertion, rfl, accepted⟩
  · have objection := objection_of_finds valid found
    rw [perform_of_finds found, found.wordless_iff]
    refine ⟨?_, ?_, fun _ => objection, fun _ => ⟨rfl, admits_of_ids_eq_nil valid⟩⟩ <;>
      cases worded : refusal.fits <;> simp [Refusal.fault, worded, objection]
  · have silent := not_objection_of_accepts valid accepted
    have worded : ¬store.Wordless insertion.call := fun ⟨_, found, _⟩ =>
      silent (objection_of_finds valid found)
    rcases perform_call_fault accepted with done | ⟨fault, broken⟩
    · simp [done, silent, worded]
    · simp [broken, silent, worded]

/-- A negative time of more digits than can be written is held against a call, and what comes is no
refusal. -/
theorem perform_unwritable_time :
    let call : Call := .node
      { time := .int (-(10 ^ Decimal.mostDigits)), id := .int 0, properties := .none, type := .none }
    Store.empty.Objection call ∧ (Store.empty.perform call).2 = some .digits ∧
      ¬∃ refusal, (Store.empty.perform call).2 = some (.refused refusal) := by
  intro call
  have below : (-(10 ^ Decimal.mostDigits) : Int) < 0 :=
    Int.neg_neg_of_pos (Int.pow_pos (by decide))
  have wordless : Store.empty.Wordless call := wordless_of_time rfl below Decimal.not_fits_neg_pow
  obtain ⟨refusal, found, unwritten⟩ := wordless
  have answer : (Store.empty.perform call).2 = some .digits := by
    rw [perform_of_finds found, Refusal.fault, unwritten]
    rfl
  refine ⟨objection_of_finds wellFormed_empty found, answer, ?_⟩
  rintro ⟨other, same⟩
  rw [answer] at same
  cases same

/-- The first end of an edge would be a new node, the second one is of the other kind: neither comes
into the graph. -/
theorem perform_refused_half_edge :
    let node : Call := .node
      { time := .int 1, id := .int 0, properties := .none, type := .none }
    let store := (Store.empty.perform node).1
    let half : Call := .edge
      { time := .int 2, source := .int 5, target := .text "x", properties := .none, type := .none }
    Reachable (fun _ => True) store ∧ store.Objection half ∧ ¬store.Wordless half ∧
      (∃ refusal, (store.perform half).2 = some (.refused refusal)) ∧
      (store.perform half).1 = store := by
  intro node store half
  have reached : Reachable (fun _ => True) store := .call .empty node trivial
  obtain ⟨worded, _, _, kept⟩ := perform_refused reached half
  have refused : ∃ refusal, (store.perform half).2 = some (.refused refusal) :=
    ⟨.foreignId (.text "x") .int, rfl⟩
  obtain ⟨objection, short⟩ := worded.1 refused
  exact ⟨reached, objection, short, refused, (kept objection).1⟩

end Store

end TemporalNetwork
