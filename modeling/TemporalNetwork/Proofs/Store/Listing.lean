import TemporalNetwork.Proofs.Store.CallLog
import TemporalNetwork.Proofs.Store.Counting

/-!
The order in which a graph lists its edges. The edges of a node are kept beside the node, so they are
listed source by source. Main statement: whatever was called, the listing holds the edges in the
order in which they came in, parted by their sources, and the sources in the order in which the nodes
came in. The two orders are one exactly if the edges came in by the order of their sources.
-/

namespace TemporalNetwork

/-! ## Items parted by keys -/

section

variable {α κ : Type} [DecidableEq κ] (key : α → κ)

def parted (keys : List κ) (items : List α) : List α :=
  keys.flatMap fun k => items.filter fun item => key item = k

variable {keys : List κ} {items : List α}

theorem pairwise_parted (distinct : keys.Nodup) (items : List α) :
    (parted key keys items).Pairwise fun item later =>
      keys.idxOf (key item) ≤ keys.idxOf (key later) := by
  rw [parted, List.pairwise_flatMap]
  constructor
  · intro k _
    apply List.pairwise_of_forall_mem_list
    intro item member later also
    have first : key item = k := of_decide_eq_true (List.mem_filter.1 member).2
    have second : key later = k := of_decide_eq_true (List.mem_filter.1 also).2
    exact Nat.le_of_eq (by rw [first, second])
  · -- Of two keys, the place of the one in front is the smaller one.
    have places : keys.Pairwise fun k other => keys.idxOf k ≤ keys.idxOf other := by
      rw [List.pairwise_iff_getElem]
      intro i j inside also before
      rw [distinct.idxOf_getElem i inside, distinct.idxOf_getElem j also]
      exact Nat.le_of_lt before
    refine places.imp ?_
    intro k other order item member later also
    have first : key item = k := of_decide_eq_true (List.mem_filter.1 member).2
    have second : key later = other := of_decide_eq_true (List.mem_filter.1 also).2
    rw [first, second]
    exact order

theorem parted_split (before : List κ) (k : κ) (after : List κ) (items : List α) :
    parted key (before ++ k :: after) items =
      parted key before items ++ (items.filter fun item => key item = k) ++
        parted key after items := by
  simp [parted]

theorem parted_cons_of_not_mem {first : α} (apart : key first ∉ keys) (rest : List α) :
    parted key keys (first :: rest) = parted key keys rest := by
  apply List.flatMap_congr
  intro k member
  have other : key first ≠ k := fun same => apart (same ▸ member)
  rw [List.filter_cons_of_neg (by simpa using other)]

theorem parted_eq_nil (apart : ∀ item ∈ items, key item ∉ keys) : parted key keys items = [] := by
  rw [parted, List.flatMap_eq_nil_iff]
  intro k member
  rw [List.filter_eq_nil_iff]
  intro item inside same
  exact apart item inside (of_decide_eq_true same ▸ member)

theorem parted_eq_self (distinct : keys.Nodup) (covered : ∀ item ∈ items, key item ∈ keys)
    (sorted : items.Pairwise fun item later =>
      keys.idxOf (key item) ≤ keys.idxOf (key later)) :
    parted key keys items = items := by
  induction items with
  | nil => simp [parted]
  | cons first rest ih =>
    obtain ⟨least, sortedRest⟩ := List.pairwise_cons.1 sorted
    have remaining := ih (fun item member => covered item (List.mem_cons_of_mem first member))
      sortedRest
    obtain ⟨before, after, rfl, new⟩ :=
      List.eq_append_cons_of_mem (covered first List.mem_cons_self)
    have once : key first ∉ after :=
      (List.nodup_cons.1 (List.nodup_append.1 distinct).2.1).1
    -- Nothing that comes later has a key in front of the first one's.
    have none : ∀ item ∈ rest, key item ∉ before := by
      intro item inside member
      have place := least item inside
      rw [List.idxOf_append_of_mem member, List.idxOf_append_of_notMem new,
        List.idxOf_cons_self] at place
      have bound := List.idxOf_lt_length_of_mem member
      omega
    rw [parted_split, parted_eq_nil key none, List.nil_append] at remaining
    rw [parted_split, parted_cons_of_not_mem key new, parted_cons_of_not_mem key once,
      parted_eq_nil key none, List.nil_append, List.filter_cons_of_pos (by simp), List.cons_append,
      remaining]

/-- Parting changes nothing exactly if the items are in the order of their keys already. -/
theorem parted_eq_self_iff (distinct : keys.Nodup) (covered : ∀ item ∈ items, key item ∈ keys) :
    parted key keys items = items ↔ items.Pairwise fun item later =>
      keys.idxOf (key item) ≤ keys.idxOf (key later) := by
  constructor
  · intro same
    have sorted := pairwise_parted key distinct items
    rwa [same] at sorted
  · exact parted_eq_self key distinct covered

end

namespace Store

/-! ## Targets of a source -/

def targetsFrom (store : Store) (source : NodeId) : List NodeId :=
  ((store.node? source).map Node.targets).getD []

variable {store : Store}

theorem mem_targetsFrom {source target : NodeId} :
    target ∈ store.targetsFrom source ↔ (store.edge? source target).isSome := by
  rw [edge?_isSome, targetsFrom]
  cases store.node? source <;> simp

theorem mem_pairs_iff (valid : store.WellFormed) {pair : NodeId × NodeId} :
    pair ∈ store.pairs ↔ pair.2 ∈ store.targetsFrom pair.1 := by
  rw [mem_targetsFrom]
  exact mem_pairs valid

theorem pairs_eq_flatMap (valid : store.WellFormed) :
    store.pairs = store.ids.flatMap fun source => (store.targetsFrom source).map (source, ·) := by
  rw [pairs_eq, ids, List.flatMap_map]
  apply List.flatMap_congr
  intro node member
  rw [targetsFrom, node?_of_mem valid.distinct member]
  rfl

theorem targetsFrom_place_node (t : Nat) (id asked : NodeId) (type properties : Value) :
    (store.place (.node t id type properties)).1.targetsFrom asked = store.targetsFrom asked := by
  rw [targetsFrom, node?_place_node, targetsFrom]
  by_cases same : asked = id
  · subst same
    rw [if_pos rfl]
    cases store.node? asked <;> rfl
  · rw [if_neg same]

theorem targetsFrom_place_edge (t : Nat) (source target asked : NodeId) (type properties : Value) :
    (store.place (.edge t source target type properties)).1.targetsFrom asked =
      if asked = source ∧ target ∉ store.targetsFrom source then
        store.targetsFrom source ++ [target]
      else store.targetsFrom asked := by
  rw [targetsFrom, node?_place_edge]
  by_cases first : asked = source
  · subst first
    have own : ((store.node? asked).getD (Node.create t asked .none)).targets =
        store.targetsFrom asked := by
      rw [targetsFrom]
      cases store.node? asked <;> rfl
    rw [if_pos rfl, Option.map_some, Option.getD_some,
      Node.targets_alterEdge _ _ fun edge => edge.target_merge properties, Node.targets_touchEdge,
      own]
    by_cases known : target ∈ store.targetsFrom asked <;> simp [known]
  · simp only [first, false_and, ↓reduceIte]
    by_cases second : asked = target
    · subst second
      rw [if_pos rfl, targetsFrom]
      cases store.node? asked <;> rfl
    · rw [if_neg second, targetsFrom]

/-! ## Edges that come in -/

/-- The edges that are there now and were not there before. -/
def newcomers (before after : Store) : List (NodeId × NodeId) :=
  after.pairs.filter fun pair => !before.pairs.contains pair

/-- The edges that a run of calls brings in, in the order in which they come in. -/
def births (store : Store) : List Call → List (NodeId × NodeId)
  | [] => []
  | call :: rest =>
    store.newcomers (store.perform call).1 ++ births (store.perform call).1 rest

theorem mem_newcomers {after : Store} {pair : NodeId × NodeId} :
    pair ∈ store.newcomers after ↔ pair ∈ after.pairs ∧ pair ∉ store.pairs := by
  simp [newcomers]

section Newcomers

variable {after : Store} (valid : store.WellFormed) (grown : after.WellFormed)
include valid grown

theorem newcomers_of_same (same : ∀ asked, after.targetsFrom asked = store.targetsFrom asked) :
    store.newcomers after = [] := by
  rw [List.eq_nil_iff_forall_not_mem]
  intro pair member
  obtain ⟨inside, new⟩ := mem_newcomers.1 member
  rw [mem_pairs_iff grown, same] at inside
  exact new ((mem_pairs_iff valid).2 inside)

theorem newcomers_of_one {source target : NodeId} (new : target ∉ store.targetsFrom source)
    (one : ∀ asked, after.targetsFrom asked =
      if asked = source then store.targetsFrom source ++ [target] else store.targetsFrom asked) :
    store.newcomers after = [(source, target)] := by
  -- Both lists have no pair twice, and they have the same pairs.
  have distinct : (store.newcomers after).Nodup := (nodup_pairs grown).filter _
  rw [← List.perm_singleton, List.perm_ext_iff_of_nodup distinct (List.nodup_singleton _)]
  rintro ⟨first, second⟩
  rw [mem_newcomers, mem_pairs_iff grown, mem_pairs_iff valid, List.mem_singleton, one,
    Prod.mk.injEq]
  by_cases here : first = source
  · subst here
    simp only [if_pos, List.mem_append, List.mem_singleton, true_and]
    constructor
    · rintro ⟨old | last, away⟩
      · exact absurd old away
      · exact last
    · rintro rfl
      exact ⟨.inr rfl, new⟩
  · simp [here]

end Newcomers

/-- A call brings in one edge, which comes behind the others of its source, or none. -/
theorem newcomers_perform (valid : store.WellFormed) (call : Call) :
    let after := (store.perform call).1
    (store.newcomers after = [] ∧ ∀ asked, after.targetsFrom asked = store.targetsFrom asked) ∨
      ∃ source target, target ∉ store.targetsFrom source ∧
        store.newcomers after = [(source, target)] ∧
        ∀ asked, after.targetsFrom asked =
          if asked = source then store.targetsFrom source ++ [target]
          else store.targetsFrom asked := by
  intro after
  have grown : after.WellFormed := wellFormed_perform valid call
  rcases store.perform_cases call with ⟨refusal, refused⟩ | ⟨insertion, _, _, placed⟩
  · have kept : after = store := congrArg Prod.fst refused
    have same : ∀ asked, after.targetsFrom asked = store.targetsFrom asked := fun _ => by rw [kept]
    exact .inl ⟨newcomers_of_same valid grown same, same⟩
  · -- The clock, which may move or not, is no part of the targets.
    have seen : ∀ asked, after.targetsFrom asked =
        (store.place insertion).1.targetsFrom asked := by
      intro asked
      rw [show after = (conclude insertion.time (store.place insertion)).1 from
        congrArg Prod.fst placed]
      rcases store.place insertion with ⟨next, _ | fault⟩ <;> rfl
    cases insertion with
    | node t id type properties =>
      have same : ∀ asked, after.targetsFrom asked = store.targetsFrom asked := fun asked =>
        (seen asked).trans (targetsFrom_place_node t id asked type properties)
      exact .inl ⟨newcomers_of_same valid grown same, same⟩
    | edge t source target type properties =>
      by_cases known : target ∈ store.targetsFrom source
      · have same : ∀ asked, after.targetsFrom asked = store.targetsFrom asked := by
          intro asked
          rw [seen, targetsFrom_place_edge, if_neg fun both => both.2 known]
        exact .inl ⟨newcomers_of_same valid grown same, same⟩
      · have one : ∀ asked, after.targetsFrom asked =
            if asked = source then store.targetsFrom source ++ [target]
            else store.targetsFrom asked := by
          intro asked
          rw [seen, targetsFrom_place_edge]
          simp only [known, not_false_eq_true, and_true]
        exact .inr ⟨source, target, known, newcomers_of_one valid grown known one, one⟩

/-! ## Runs of calls -/

/-- The edges of a graph came in in the given order: each of them once, and those of one source stand
beside it in that order. -/
structure Listed (store : Store) (born : List (NodeId × NodeId)) : Prop where
  distinct : born.Nodup
  targets : ∀ source, store.targetsFrom source =
    (born.filter fun pair => pair.1 = source).map Prod.snd

theorem listed_empty : Listed .empty [] where
  distinct := List.nodup_nil
  targets _ := rfl

variable {born : List (NodeId × NodeId)}

theorem Listed.mem_iff (listed : store.Listed born) {pair : NodeId × NodeId} :
    pair ∈ born ↔ pair.2 ∈ store.targetsFrom pair.1 := by
  rw [listed.targets, List.mem_map]
  constructor
  · exact fun member => ⟨pair, List.mem_filter.2 ⟨member, by simp⟩, rfl⟩
  · rintro ⟨other, inside, same⟩
    obtain ⟨member, also⟩ := List.mem_filter.1 inside
    rwa [← Prod.ext (of_decide_eq_true also) same]

theorem Listed.perform (valid : store.WellFormed) (listed : store.Listed born) (call : Call) :
    (store.perform call).1.Listed (born ++ store.newcomers (store.perform call).1) := by
  rcases newcomers_perform valid call with ⟨none, same⟩ | ⟨source, target, new, one, grown⟩
  · rw [none, List.append_nil]
    exact ⟨listed.distinct, fun asked => (same asked).trans (listed.targets asked)⟩
  · have absent : (source, target) ∉ born := fun member => new (listed.mem_iff.1 member)
    rw [one]
    refine ⟨?_, fun asked => ?_⟩
    · exact List.nodup_append.2 ⟨listed.distinct, List.nodup_singleton _, fun pair member other
        last same => absent (List.mem_singleton.1 last ▸ same ▸ member)⟩
    · rw [grown, List.filter_append, List.map_append]
      by_cases here : asked = source
      · subst here
        simp [listed.targets]
      · simp [here, Ne.symm here, listed.targets]

theorem Listed.performAll (valid : store.WellFormed) (listed : store.Listed born)
    (calls : List Call) :
    (store.performAll calls).WellFormed ∧
      (store.performAll calls).Listed (born ++ store.births calls) := by
  induction calls generalizing store born with
  | nil => exact ⟨valid, by simpa [births, Store.performAll] using listed⟩
  | cons call rest ih =>
    rw [births, ← List.append_assoc]
    exact ih (wellFormed_perform valid call) (listed.perform valid call)

theorem Listed.pairs_eq (valid : store.WellFormed) (listed : store.Listed born) :
    store.pairs = parted Prod.fst store.ids born := by
  rw [pairs_eq_flatMap valid, parted]
  apply List.flatMap_congr
  intro source _
  rw [listed.targets, List.map_map]
  conv_rhs => rw [← List.map_id (born.filter fun pair => pair.1 = source)]
  apply List.map_congr_left
  intro pair inside
  have own : pair.1 = source := of_decide_eq_true (List.mem_filter.1 inside).2
  rw [Function.comp_apply, ← own]
  rfl

/-- The listing of a graph after any calls, in any order of times and with any arguments: every edge
that came in, once, parted by the sources. It is in the order in which the edges came in exactly if
no edge came in behind one whose source is the later node. -/
theorem performAll_pairs (calls : List Call) :
    let store := empty.performAll calls
    let born := empty.births calls
    store.pairs.Nodup ∧ store.pairs.Perm born ∧
      (∀ source target, (source, target) ∈ store.pairs ↔
        store.hasEdge source.toValue target.toValue = .ok true) ∧
      store.pairs = parted Prod.fst store.ids born ∧
      (store.pairs = born ↔ born.Pairwise fun pair later =>
        store.ids.idxOf pair.1 ≤ store.ids.idxOf later.1) := by
  intro store born
  have run := listed_empty.performAll wellFormed_empty calls
  rw [List.nil_append] at run
  obtain ⟨valid, listed⟩ := run
  have agree : ∀ pair, pair ∈ store.pairs ↔ pair ∈ born := fun pair =>
    (mem_pairs_iff valid).trans listed.mem_iff.symm
  have listing : store.pairs = parted Prod.fst store.ids born := listed.pairs_eq valid
  have covered : ∀ pair ∈ born, pair.1 ∈ store.ids := fun pair member =>
    (ends_mem_of_mem_pairs valid ((agree pair).2 member)).1
  refine ⟨nodup_pairs valid, ?_, ?_, listing, ?_⟩
  · exact (List.perm_ext_iff_of_nodup (nodup_pairs valid) listed.distinct).2 agree
  · intro source target
    rw [mem_pairs valid, hasEdge, Store.edgeNamed?_toValue, Except.map, Except.ok.injEq]
  · rw [listing]
    exact parted_eq_self_iff Prod.fst valid.distinct covered

/-- The second node is the source of the first edge: its edge is listed behind the one that came in
after it. -/
theorem performAll_pairs_out_of_order :
    let node : Call := .node
      { time := .int 1, id := .int 0, properties := .none, type := .none }
    let back : Call := .edge
      { time := .int 2, source := .int 1, target := .int 0, properties := .none, type := .none }
    let forth : Call := .edge
      { time := .int 3, source := .int 0, target := .int 1, properties := .none, type := .none }
    let calls := [node, back, forth]
    empty.births calls = [(.int 1, .int 0), (.int 0, .int 1)] ∧
      (empty.performAll calls).pairs = [(.int 0, .int 1), (.int 1, .int 0)] ∧
      (empty.performAll calls).pairs ≠ empty.births calls := by
  decide

end Store

end TemporalNetwork
