import TemporalNetwork.Proofs.Generation.NodePhase

/-!
Going on where a generation stopped. An allocator is started anew for every generation, from what
the graph holds then: a new greatest number, or more ids in use and a search that begins further up.
Main statement: the ids that come next are all the same the ones that a single allocation would have
come to.
-/

namespace TemporalNetwork

/-! ## The search for an unused numeral -/

section Search

variable {used other : List NodeId} {k l m : Nat}

-- Whatever the search passes over is in use.
theorem mem_of_lt_firstUnused (above : k ≤ m) (before : m < firstUnused used k) :
    .text (Decimal.ofNat m) ∈ used := by
  fun_induction firstUnused used k with
  | case1 used k taken ih =>
    rcases Nat.eq_or_lt_of_le above with same | later
    · rwa [← same]
    · exact List.mem_of_mem_erase (ih later before)
  | case2 used k free => omega

theorem firstUnused_le (above : k ≤ m) (free : .text (Decimal.ofNat m) ∉ used) :
    firstUnused used k ≤ m :=
  Nat.le_of_not_lt fun before => free (mem_of_lt_firstUnused above before)

-- The search only depends on the numerals that it could end at.
theorem firstUnused_congr (same : ∀ m, (k ≤ m ∧ .text (Decimal.ofNat m) ∉ used) ↔
    (l ≤ m ∧ .text (Decimal.ofNat m) ∉ other)) : firstUnused used k = firstUnused other l := by
  apply Nat.le_antisymm
  · obtain ⟨above, free⟩ := (same _).2 ⟨le_firstUnused other l, firstUnused_fresh other l⟩
    exact firstUnused_le above free
  · obtain ⟨above, free⟩ := (same _).1 ⟨le_firstUnused used k, firstUnused_fresh used k⟩
    exact firstUnused_le above free

end Search

namespace Allocator

/-! ## What is open to an allocator -/

/-- The ids that an allocator may still come to. -/
def Open : Allocator → NodeId → Prop
  | .counting last, .int n => last < n
  | .naming used next, .text s => ∃ k, s = Decimal.ofNat k ∧ next ≤ k ∧ .text s ∉ used
  | _, _ => False

theorem open_numeral {used : List NodeId} {next k : Nat} :
    Open (.naming used next) (.text (Decimal.ofNat k)) ↔
      next ≤ k ∧ .text (Decimal.ofNat k) ∉ used := by
  constructor
  · rintro ⟨m, same, above, free⟩
    rw [← Decimal.ofNat_injective (Text.whole.inj same)] at above
    exact ⟨above, free⟩
  · rintro ⟨above, free⟩
    exact ⟨k, rfl, above, free⟩

theorem open_next_iff (allocator : Allocator) (id : NodeId) :
    allocator.next.2.Open id ↔ allocator.Open id ∧ id ≠ allocator.next.1 := by
  cases allocator with
  | counting last =>
    cases id with
    | int n =>
      simp only [next, Open, ne_eq, NodeId.int.injEq]
      omega
    | text s => simp [next, Open]
  | naming used k =>
    cases id with
    | int n => simp [next, Open]
    | text s =>
      constructor
      · rintro ⟨m, rfl, above, free⟩
        have start := le_firstUnused used k
        refine ⟨open_numeral.2 ⟨by omega, free⟩, ?_⟩
        intro same
        have equal := Decimal.ofNat_injective (Text.whole.inj (NodeId.text.inj same))
        omega
      · rintro ⟨⟨m, rfl, above, free⟩, apart⟩
        -- The search gives the least open numeral.
        have least := firstUnused_le above free
        refine open_numeral.2 ⟨Nat.lt_of_le_of_ne least ?_, free⟩
        intro same
        exact apart (by rw [← same]; rfl)

theorem next_congr {allocator other : Allocator}
    (same : ∀ id, allocator.Open id ↔ other.Open id) : allocator.next.1 = other.next.1 := by
  cases allocator with
  | counting last =>
    cases other with
    | counting final =>
      have first : last < final + 1 := (same (.int (final + 1))).2 (Int.lt_succ final)
      have second : final < last + 1 := (same (.int (last + 1))).1 (Int.lt_succ last)
      have equal : last = final := by omega
      rw [equal]
    | naming used k => exact ((same (.int (last + 1))).1 (Int.lt_succ last)).elim
  | naming used k =>
    cases other with
    | counting final => exact ((same (.int (final + 1))).2 (Int.lt_succ final)).elim
    | naming others l =>
      have equal : firstUnused used k = firstUnused others l := firstUnused_congr fun m => by
        rw [← open_numeral, ← open_numeral]
        exact same _
      simp only [next, equal]

theorem take_congr {allocator other : Allocator}
    (same : ∀ id, allocator.Open id ↔ other.Open id) (n : Nat) :
    allocator.take n = other.take n := by
  induction n generalizing allocator other with
  | zero => rfl
  | succ n ih =>
    have first := next_congr same
    have later : ∀ id, allocator.next.2.Open id ↔ other.next.2.Open id := by
      intro id
      rw [open_next_iff, open_next_iff, same id, first]
    rw [take, take, first, ih later]

-- With the numeral it gives among the ids in use, a search may begin one further up.
theorem open_naming_append (ids : List NodeId) (id : NodeId) :
    let given := (Allocator.naming ids ids.length).next
    Open (.naming (ids ++ [given.1]) (ids.length + 1)) id ↔ given.2.Open id := by
  intro given
  rw [open_next_iff]
  cases id with
  | int n => exact ⟨False.elim, And.left⟩
  | text s =>
    constructor
    · rintro ⟨k, rfl, above, free⟩
      rw [List.mem_append, List.mem_singleton, not_or] at free
      exact ⟨open_numeral.2 ⟨by omega, free.1⟩, free.2⟩
    · rintro ⟨⟨k, rfl, above, free⟩, apart⟩
      -- The numeral given is not below the number of ids, and this one is another.
      have later : ids.length ≠ k := by
        rintro rfl
        have least := firstUnused_le above free
        have start := le_firstUnused ids ids.length
        have same : firstUnused ids ids.length = ids.length := by omega
        exact apart (by simp only [next, same])
      refine open_numeral.2 ⟨by omega, ?_⟩
      rw [List.mem_append, List.mem_singleton, not_or]
      exact ⟨free, apart⟩

/-! ## Starting anew -/

variable {store other : Store}

theorem ofStore_congr (same : store.ids = other.ids) : ofStore store = ofStore other := by
  have count : store.nodeCount = other.nodeCount := by
    simpa [Store.ids, Store.nodeCount] using congrArg List.length same
  have after : ∀ last, after store last = after other last := by
    rintro (_ | _ | _)
    · rfl
    · rfl
    · simp only [Allocator.after, beside, same, count]
  rw [ofStore, ofStore, same, after]

theorem ofStore_cases (store : Store) :
    (store.ids = [] ∧ ofStore store = .counting (-1)) ∨
      (∃ last, .int last ∈ store.ids ∧ ofStore store = .counting last) ∨
      (∃ s, .text s ∈ store.ids ∧ ofStore store = .naming store.ids store.ids.length) := by
  cases greatest : NodeId.greatest? store.ids with
  | none =>
    refine .inl ⟨?_, by rw [ofStore, greatest]; rfl⟩
    cases nodes : store.ids with
    | nil => rfl
    | cons first rest => simp [nodes, NodeId.greatest?_cons] at greatest
  | some last =>
    have inside := NodeId.greatest?_mem greatest
    cases last with
    | int n => exact .inr (.inl ⟨n, inside, by rw [ofStore, greatest]; rfl⟩)
    | text s =>
      refine .inr (.inr ⟨s, inside, ?_⟩)
      rw [ofStore, greatest]
      simp [after, beside, Store.ids, Store.nodeCount]

theorem ofStore_of_int_mem (valid : store.WellFormed) {n : Int} (member : .int n ∈ store.ids) :
    ∃ last, .int last ∈ store.ids ∧ ofStore store = .counting last := by
  rcases ofStore_cases store with ⟨empty, _⟩ | counting | ⟨s, also, _⟩
  · simp [empty] at member
  · exact counting
  · cases valid.oneKind _ member _ also

theorem ofStore_of_text_mem (valid : store.WellFormed) {s : Text} (member : .text s ∈ store.ids) :
    ofStore store = .naming store.ids store.ids.length := by
  rcases ofStore_cases store with ⟨empty, _⟩ | ⟨n, also, _⟩ | ⟨_, _, naming⟩
  · simp [empty] at member
  · cases valid.oneKind _ member _ also
  · exact naming

section Grown

variable (valid : store.WellFormed) (also : other.WellFormed)
variable (grown : other.ids = store.ids ++ [(ofStore store).next.1])
include valid also grown

-- The last number given is the greatest of all.
theorem ofStore_of_counting {before : Int} (counting : ofStore store = .counting before) :
    ofStore other = .counting (before + 1) := by
  have given : (ofStore store).next.1 ∈ other.ids := by simp [grown]
  have beyond := (beyond_ofStore valid).next
  rw [← grown, counting] at beyond
  rw [counting] at given
  obtain ⟨last, inside, final⟩ := ofStore_of_int_mem also given
  obtain ⟨n, same, bound⟩ := beyond _ inside
  have least := beyond_ofStore also
  rw [final] at least
  obtain ⟨m, equal, above⟩ := least _ given
  cases same
  cases equal
  have settled : last = before + 1 := by omega
  rw [final, settled]

/-- After its next id has come into the graph, an allocator that is started anew may come to what
the old one may still come to. -/
theorem open_ofStore_next (id : NodeId) :
    (ofStore other).Open id ↔ (ofStore store).next.2.Open id := by
  rcases ofStore_cases store with ⟨_, counting⟩ | ⟨last, _, counting⟩ | ⟨s, inside, naming⟩
  · rw [ofStore_of_counting valid also grown counting, counting]
    rfl
  · rw [ofStore_of_counting valid also grown counting, counting]
    rfl
  · have text : .text s ∈ other.ids := by
      rw [grown]
      exact List.mem_append_left _ inside
    rw [naming] at grown
    rw [ofStore_of_text_mem also text, naming, grown, List.length_append]
    exact open_naming_append store.ids id

theorem after_next : after other (some (ofStore store).next.1) = ofStore other := by
  have given : (ofStore store).next.1 ∈ other.ids := by simp [grown]
  rcases ofStore_cases store with ⟨_, counting⟩ | ⟨last, _, counting⟩ | ⟨s, inside, naming⟩
  · rw [ofStore_of_counting valid also grown counting, counting]
    rfl
  · rw [ofStore_of_counting valid also grown counting, counting]
    rfl
  · rw [naming] at given ⊢
    rw [ofStore_of_text_mem also given]
    simp [after, beside, next, Store.ids, Store.nodeCount]

end Grown

end Allocator

/-! ## Attempts after attempts -/

namespace Generation

variable {store other : Store} {n : Nat}

-- The graph with the next node of a generation.
theorem exists_next (valid : store.WellFormed) :
    ∃ later : Store, later.WellFormed ∧
      later.ids = store.ids ++ [(Allocator.ofStore store).next.1] := by
  have beyond := Allocator.beyond_ofStore valid
  let entry : Nat × NodeId := (0, (Allocator.ofStore store).next.1)
  refine ⟨store.insert (.arrival entry), ?_, ?_⟩
  · exact Store.wellFormed_insert valid
      (show store.Accepts (.arrival entry) from beyond.admits valid)
  · exact store.ids_insert_arrival entry beyond.next_not_mem

theorem newIds_succ (valid : store.WellFormed) (also : other.WellFormed)
    (grown : other.ids = store.ids ++ [(Allocator.ofStore store).next.1]) (n : Nat) :
    newIds store (n + 1) = (Allocator.ofStore store).next.1 :: newIds other n := by
  rw [newIds, newIds, Allocator.take,
    Allocator.take_congr (Allocator.open_ofStore_next valid also grown) n]

/-- The ids of a generation are those of a shorter one and those that come after it, whatever else
has happened to the graph meanwhile. -/
theorem newIds_add (valid : store.WellFormed)
    (grown : other.ids = store.ids ++ newIds store n) (m : Nat) :
    newIds store (n + m) = newIds store n ++ newIds other m := by
  -- By induction on the shorter one: the first new node comes into a graph between the two.
  induction n generalizing store with
  | zero =>
    have same : other.ids = store.ids := by simpa [newIds, Allocator.take] using grown
    rw [Nat.zero_add, newIds, newIds, newIds, Allocator.ofStore_congr same]
    rfl
  | succ n ih =>
    obtain ⟨middle, kept, next⟩ := exists_next valid
    have rest : other.ids = middle.ids ++ newIds middle n := by
      rw [grown, newIds_succ valid kept next, next, List.append_assoc]
      rfl
    rw [Nat.add_right_comm, newIds_succ valid kept next, newIds_succ valid kept next, ih kept rest]
    rfl

end Generation

end TemporalNetwork
