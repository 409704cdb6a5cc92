import TemporalNetwork.Generation.Allocator
import TemporalNetwork.Proofs.Store.WellFormed

/-!
Allocation beside a set of ids. An allocator is beyond some ids when whatever it will give is none
of them and of their kind. The allocator of a graph is beyond the ids of the graph, and stays beyond
them and beyond all it has given.
-/

namespace TemporalNetwork

namespace NodeId

theorem greatest?_cons (first : NodeId) (rest : List NodeId) :
    greatest? (first :: rest) =
      some (rest.foldl (fun best id => if id.lessEq best then best else id) first) := rfl

theorem foldl_greatest_mem (best : NodeId) (rest : List NodeId) :
    rest.foldl (fun best id => if id.lessEq best then best else id) best ∈ best :: rest := by
  induction rest generalizing best with
  | nil => exact List.mem_cons_self
  | cons id rest ih =>
    rw [List.foldl_cons]
    by_cases less : id.lessEq best
    · rw [if_pos less]
      rcases List.mem_cons.1 (ih best) with same | later
      · rw [same]
        exact List.mem_cons_self
      · exact List.mem_cons_of_mem best (List.mem_cons_of_mem id later)
    · rw [if_neg less]
      exact List.mem_cons_of_mem best (ih id)

theorem greatest?_mem {ids : List NodeId} {id : NodeId} (found : greatest? ids = some id) :
    id ∈ ids := by
  cases ids with
  | nil => cases found
  | cons first rest =>
    cases found
    exact foldl_greatest_mem first rest

/-! ## The order of ids -/

theorem lessEq_refl (id : NodeId) : id.lessEq id := by
  cases id <;> simp [lessEq, Text.lessEq, Point.lessEq_refl]

theorem lessEq_total (id other : NodeId) : id.lessEq other ∨ other.lessEq id := by
  cases id <;> cases other <;> simp [lessEq, Text.lessEq, Int.le_total, Point.lessEq_total]

theorem lessEq_trans {id other third : NodeId} (first : id.lessEq other)
    (second : other.lessEq third) : id.lessEq third := by
  cases id <;> cases other <;> cases third <;> simp_all only [lessEq, decide_eq_true_eq,
    reduceCtorEq]
  · exact Int.le_trans first second
  · exact Point.lessEq_trans first second

theorem lessEq_antisymm {id other : NodeId} (first : id.lessEq other) (second : other.lessEq id) :
    id = other := by
  cases id <;> cases other <;> simp_all only [lessEq, decide_eq_true_eq, reduceCtorEq, int.injEq,
    text.injEq]
  · exact Int.le_antisymm first second
  · exact Text.lessEq_antisymm first second

-- The search keeps a bound of all it has seen.
theorem lessEq_foldl_greatest (best : NodeId) (rest : List NodeId) :
    let last := rest.foldl (fun best id => if id.lessEq best then best else id) best
    best.lessEq last ∧ ∀ id ∈ rest, id.lessEq last := by
  intro last
  induction rest generalizing best with
  | nil => exact ⟨lessEq_refl best, fun id member => by cases member⟩
  | cons id rest ih =>
    have step : best.lessEq (if id.lessEq best then best else id) ∧
        id.lessEq (if id.lessEq best then best else id) := by
      by_cases less : id.lessEq best
      · simp [less, lessEq_refl]
      · simp [less, lessEq_refl, (lessEq_total id best).resolve_left less]
    obtain ⟨bound, bounds⟩ := ih (if id.lessEq best then best else id)
    refine ⟨lessEq_trans step.1 bound, ?_⟩
    intro other member
    rcases List.mem_cons.1 member with same | later
    · exact same ▸ lessEq_trans step.2 bound
    · exact bounds other later

theorem lessEq_greatest? {ids : List NodeId} {last id : NodeId}
    (found : greatest? ids = some last) (member : id ∈ ids) : id.lessEq last := by
  cases ids with
  | nil => cases found
  | cons first rest =>
    cases found
    obtain ⟨bound, bounds⟩ := lessEq_foldl_greatest first rest
    rcases List.mem_cons.1 member with same | later
    · exact same ▸ bound
    · exact bounds id later

end NodeId

namespace Allocator

/-- Nothing that an allocator is still to give is among the ids, and all of it is of their kind. -/
def Beyond (ids : List NodeId) : Allocator → Prop
  | .counting last => ∀ id ∈ ids, ∃ n, id = .int n ∧ n ≤ last
  | .naming used next =>
    ∀ id ∈ ids, id.kind = .text ∧ (id ∈ used ∨ ∃ k < next, id = .text (Decimal.ofNat k))

theorem Beyond.subset {ids fewer : List NodeId} {allocator : Allocator}
    (beyond : allocator.Beyond ids) (within : ∀ id ∈ fewer, id ∈ ids) :
    allocator.Beyond fewer := by
  cases allocator with
  | counting last => exact fun id member => beyond id (within id member)
  | naming used next => exact fun id member => beyond id (within id member)

theorem Beyond.next_not_mem {ids : List NodeId} {allocator : Allocator}
    (beyond : allocator.Beyond ids) : allocator.next.1 ∉ ids := by
  intro member
  cases allocator with
  | counting last =>
    obtain ⟨n, same, bound⟩ := beyond _ member
    cases same
    omega
  | naming used k =>
    rcases (beyond _ member).2 with known | ⟨earlier, before, same⟩
    · exact next_naming_fresh used k known
    · have later := le_firstUnused used k
      have equal := Decimal.ofNat_injective (Text.whole.inj (NodeId.text.inj same))
      omega

theorem Beyond.next_kind {ids : List NodeId} {allocator : Allocator}
    (beyond : allocator.Beyond ids) : ∀ id ∈ ids, allocator.next.1.kind = id.kind := by
  intro id member
  cases allocator with
  | counting last =>
    obtain ⟨n, same, _⟩ := beyond id member
    rw [same]
    rfl
  | naming used k =>
    rw [(beyond id member).1]
    rfl

theorem Beyond.next {ids : List NodeId} {allocator : Allocator} (beyond : allocator.Beyond ids) :
    allocator.next.2.Beyond (ids ++ [allocator.next.1]) := by
  cases allocator with
  | counting last =>
    intro id member
    rcases List.mem_append.1 member with old | given
    · obtain ⟨n, same, bound⟩ := beyond id old
      exact ⟨n, same, by omega⟩
    · exact ⟨last + 1, List.mem_singleton.1 given, Int.le_refl _⟩
  | naming used k =>
    intro id member
    rcases List.mem_append.1 member with old | given
    · obtain ⟨kind, place⟩ := beyond id old
      refine ⟨kind, ?_⟩
      rcases place with known | ⟨earlier, before, same⟩
      · exact .inl known
      · have later := le_firstUnused used k
        exact .inr ⟨earlier, by omega, same⟩
    · rw [List.mem_singleton.1 given]
      exact ⟨rfl, .inr ⟨firstUnused used k, Nat.lt_succ_self _, rfl⟩⟩

theorem beyond_ofStore {store : Store} (valid : store.WellFormed) :
    (ofStore store).Beyond store.ids := by
  rw [ofStore]
  cases greatest : NodeId.greatest? store.ids with
  | none =>
    have empty : store.ids = [] := by
      cases nodes : store.ids with
      | nil => rfl
      | cons first rest =>
        rw [nodes] at greatest
        cases greatest
    rw [empty]
    exact fun id member => by cases member
  | some last =>
    have inside := NodeId.greatest?_mem greatest
    cases last with
    | int n =>
      have numbers : ∀ id ∈ store.ids, id.kind = .int := fun id member =>
        valid.oneKind id member (.int n) inside
      intro id member
      cases id with
      | text s => cases numbers (.text s) member
      | int m =>
        have bound := NodeId.lessEq_greatest? greatest member
        exact ⟨m, rfl, by simpa [NodeId.lessEq] using bound⟩
    | text s =>
      intro id member
      -- All ids are on record, so none has to be a numeral that was tried.
      exact ⟨valid.oneKind id member (.text s) inside, .inl member⟩

theorem Beyond.admits {store : Store} (valid : store.WellFormed) {allocator : Allocator}
    (beyond : allocator.Beyond store.ids) : store.Admits allocator.next.1 :=
  (Store.admits_iff valid).2 beyond.next_kind

theorem Beyond.take_kind {ids : List NodeId} {allocator : Allocator} (beyond : allocator.Beyond ids)
    (n : Nat) : ∀ id ∈ allocator.take n, ∀ known ∈ ids, id.kind = known.kind := by
  induction n generalizing ids allocator with
  | zero => exact fun id member => by cases member
  | succ n ih =>
    intro id member known inside
    rcases List.mem_cons.1 member with same | later
    · exact same ▸ beyond.next_kind known inside
    · exact ih beyond.next id later known (List.mem_append_left _ inside)

theorem Beyond.take {ids : List NodeId} {allocator : Allocator} (beyond : allocator.Beyond ids)
    (n : Nat) : (ids ++ allocator.take n).Nodup ↔ ids.Nodup := by
  induction n generalizing ids allocator with
  | zero => simp [Allocator.take]
  | succ n ih =>
    rw [Allocator.take, ← List.singleton_append, ← List.append_assoc, ih beyond.next,
      List.nodup_append]
    constructor
    · exact fun distinct => distinct.1
    · intro distinct
      refine ⟨distinct, by simp, ?_⟩
      intro id member given last same
      rw [List.mem_singleton.1 last] at same
      exact beyond.next_not_mem (same ▸ member)

end Allocator

end TemporalNetwork
