import TemporalNetwork.Proofs.Generation.Succession

/-!
Which ids a stream gives. Behind whole numbers they count on; among texts they are numerals, and no
numeral is passed over that is open. Main statement: however many are taken, they are distinct, none
of the graph and of its kind: behind its greatest number, or the least numerals not below the number
of its nodes that are not in use.
-/

namespace TemporalNetwork

/-- A list has the least of all numbers with a property, in increasing order. -/
structure Leading (holds : Nat → Prop) (numbers : List Nat) : Prop where
  increasing : numbers.Pairwise (· < ·)
  sound : ∀ k ∈ numbers, holds k
  least : ∀ k, holds k → k ∈ numbers ∨ ∀ m ∈ numbers, m < k

def numeral (k : Nat) : NodeId := .text (Decimal.ofNat k)

theorem numeral_injective {k m : Nat} (same : numeral k = numeral m) : k = m :=
  Decimal.ofNat_injective (Text.whole.inj (NodeId.text.inj same))

namespace Allocator

theorem take_counting (last : Int) (n : Nat) :
    (counting last).take n = (List.range n).map fun (i : Nat) => .int (last + 1 + i) := by
  induction n generalizing last with
  | zero => rfl
  | succ n ih =>
    rw [take, next, ih, List.range_succ_eq_map, List.map_cons, List.map_map]
    simp only [List.cons.injEq, NodeId.int.injEq]
    refine ⟨by omega, List.map_congr_left fun i _ => ?_⟩
    simp only [Function.comp_apply, NodeId.int.injEq]
    omega

theorem take_naming (used : List NodeId) (next n : Nat) :
    ∃ numbers : List Nat, (naming used next).take n = numbers.map numeral ∧
      Leading (fun k => next ≤ k ∧ numeral k ∉ used) numbers := by
  induction n generalizing next with
  | zero =>
    refine ⟨[], rfl, .nil, ?_, ?_⟩
    · exact fun k member => absurd member List.not_mem_nil
    · exact fun k _ => .inr fun m member => absurd member List.not_mem_nil
  | succ n ih =>
    let found := firstUnused used next
    have start : next ≤ found := le_firstUnused used next
    obtain ⟨numbers, taken, leading⟩ := ih (found + 1)
    have behind : ∀ m ∈ numbers, found < m := fun m member => (leading.sound m member).1
    refine ⟨found :: numbers, ?_, ?_, ?_, ?_⟩
    · rw [List.map_cons, ← taken]
      rfl
    · exact List.pairwise_cons.2 ⟨behind, leading.increasing⟩
    · intro k member
      rcases List.mem_cons.1 member with rfl | later
      · exact ⟨start, firstUnused_fresh used next⟩
      · have above := behind k later
        exact ⟨by omega, (leading.sound k later).2⟩
    · rintro k ⟨above, free⟩
      -- The search ends at the least one, and what is left is behind it.
      rcases Nat.eq_or_lt_of_le (firstUnused_le above free) with same | later
      · exact .inl (same ▸ List.mem_cons_self)
      · rcases leading.least k ⟨later, free⟩ with inside | past
        · exact .inl (List.mem_cons_of_mem found inside)
        · refine .inr fun m member => ?_
          rcases List.mem_cons.1 member with rfl | member'
          · exact later
          · exact past m member'

theorem exists_greatest {store : Store} (valid : store.WellFormed) {n : Int}
    (inside : .int n ∈ store.ids) :
    ∃ last, ofStore store = .counting last ∧ .int last ∈ store.ids ∧
      ∀ m, .int m ∈ store.ids → m ≤ last := by
  obtain ⟨last, also, counting⟩ := ofStore_of_int_mem valid inside
  have beyond := beyond_ofStore valid
  rw [counting] at beyond
  refine ⟨last, counting, also, fun m member => ?_⟩
  obtain ⟨_, same, below⟩ := beyond _ member
  cases same
  exact below

end Allocator

namespace Store

variable {store : Store} {n : Nat}

def Free (store : Store) (k : Nat) : Prop := store.nodeCount ≤ k ∧ numeral k ∉ store.ids

/-- Ids for as many new nodes of a graph. -/
structure Allots (store : Store) (n : Nat) (ids : List NodeId) : Prop where
  length : ids.length = n
  distinct : ids.Nodup
  new : ∀ id ∈ ids, id ∉ store.ids
  kind : ∀ id ∈ ids, ∀ known ∈ store.ids, id.kind = known.kind
  /-- Without nodes the ids are the numbers from zero on. -/
  bare : store.ids = [] → ids = (List.range n).map fun (i : Nat) => .int i
  numbers : ∀ last, .int last ∈ store.ids → (∀ m, .int m ∈ store.ids → m ≤ last) →
    ids = (List.range n).map fun (i : Nat) => .int (last + 1 + i)
  above : ∀ m, .int m ∈ ids → ∀ known, .int known ∈ store.ids → known < m
  texts : ∀ s, .text s ∈ store.ids →
    ∃ numbers : List Nat, ids = numbers.map numeral ∧ Leading store.Free numbers

theorem allots_take (valid : store.WellFormed) (n : Nat) :
    store.Allots n ((Allocator.ofStore store).take n) := by
  have beyond := Allocator.beyond_ofStore valid
  obtain ⟨_, distinct, apart⟩ := List.nodup_append.1 ((beyond.take n).2 valid.distinct)
  refine ⟨Allocator.take_length n _, distinct, fun id given known => apart id known id given rfl,
    beyond.take_kind n, ?bare, ?numbers, ?above, ?texts⟩
  case bare =>
    intro none
    rcases Allocator.ofStore_cases store with ⟨_, counting⟩ | ⟨last, inside, _⟩ | ⟨s, inside, _⟩
    · rw [counting, Allocator.take_counting]
      simp
    · simp [none] at inside
    · simp [none] at inside
  case numbers =>
    intro last inside bound
    obtain ⟨greatest, counting, also, bounds⟩ := Allocator.exists_greatest valid inside
    have settled : greatest = last := Int.le_antisymm (bound greatest also) (bounds last inside)
    rw [counting, settled, Allocator.take_counting]
  case above =>
    intro m given known inside
    obtain ⟨greatest, counting, _, bounds⟩ := Allocator.exists_greatest valid inside
    have bound := bounds known inside
    rw [counting, Allocator.take_counting] at given
    obtain ⟨i, _, same⟩ := List.mem_map.1 given
    cases same
    omega
  case texts =>
    intro s inside
    obtain ⟨numbers, taken, leading⟩ := Allocator.take_naming store.ids store.nodeCount n
    have naming := Allocator.ofStore_of_text_mem valid inside
    rw [show store.ids.length = store.nodeCount from List.length_map _] at naming
    exact ⟨numbers, naming ▸ taken, leading⟩

/-- The first ids of a stream that is opened with the greatest id of a graph, however many they are. -/
theorem stream_allots {carries : Value → Prop} (reached : Reachable carries store) {last : Value}
    (greatest : store.Last last) (n : Nat) :
    ∃ ids, ((IdStream.unread last none).take store n).1 = .ok (ids.map NodeId.toValue) ∧
      store.Allots n ids :=
  ⟨_, IdStream.take_unread greatest.leads n, allots_take reached.wellFormed n⟩

/-- Five texts: a numeral at their number, one further up, one below, and one that is not written as
numbers are. -/
theorem stream_allots_among_numerals :
    let node (s : String) : Call := .node
      { time := .int 1, id := .text s, properties := .none, type := .none }
    let store := (((((Store.empty.perform (node "007")).1.perform (node "5")).1.perform
      (node "a")).1.perform (node "2")).1.perform (node "9")).1
    (Reachable (fun _ => True) store ∧ store.Last (.text "a")) ∧
      ((IdStream.unread (.text "a") none).take store 4).1 =
        .ok ([6, 7, 8, 10].map numeral |>.map NodeId.toValue) ∧
      ∃ ids, ((IdStream.unread (.text "a") none).take store 4).1 =
          .ok (ids.map NodeId.toValue) ∧
        store.Allots 4 ids := by
  intro node store
  have reached : Reachable (fun _ => True) store :=
    .call (.call (.call (.call (.call .empty (node "007") trivial) (node "5") trivial)
      (node "a") trivial) (node "2") trivial) (node "9") trivial
  have greatest : store.Last (NodeId.text "a").toValue := .id (by decide) (by decide)
  have given : (Allocator.ofStore store).take 4 = [6, 7, 8, 10].map numeral := by
    decide +kernel
  refine ⟨⟨reached, greatest⟩, ?_, stream_allots reached greatest 4⟩
  exact (IdStream.take_unread greatest.leads 4).trans (by rw [given])

end Store

end TemporalNetwork
