import Mathlib.Data.List.Basic
import TemporalNetwork.Proofs.Generation.Insertions
import TemporalNetwork.Proofs.Store.CallLog

/-!
What the graph answers after the insertions of a run, whole or broken: who is there, with which
history, and which edge has which times.
-/

namespace TemporalNetwork

namespace Store

def edgeTimes (store : Store) (source target : NodeId) : List Nat :=
  match store.edgeHistory source.toValue target.toValue with
  | .ok times => times
  | .error _ => []

theorem edgeTimes_eq (store : Store) (source target : NodeId) :
    store.edgeTimes source target =
      ((store.edge? source target).map fun edge => edge.history.times).getD [] := by
  rw [edgeTimes, edgeHistory, Store.edgeNamed?_toValue]
  cases store.edge? source target <;> rfl

theorem times_linked (t : Nat) (target : NodeId) (before : Option Edge) :
    (linked t target before).history.times =
      (before.map fun edge => edge.history.times).getD [] ++ [t] := by
  cases before <;> rfl

theorem nodeHistory_eq (store : Store) (id : NodeId) :
    store.nodeHistory id.toValue =
      match store.bareNode? id with
      | some node => .ok node.history.times
      | none => .error (.missing id.toValue) := by
  simp only [nodeHistory, nodeNamed?, NodeId.named?_toValue, Option.bind_some, bareNode?]
  cases store.node? id <;> rfl

end Store

namespace Generation

variable {p : Probability} {stream : Nat → Draw} {guarded : GuardedStore} {n made : Nat}

theorem joins_links (valid : guarded.store.WellFormed) (made : Nat) :
    (peopled guarded n).Joins ((links p stream guarded n).take made) := by
  intro entry member
  have sampledPair : entry.2 ∈ sampledPairs p stream guarded n := by
    have mapped := List.mem_map_of_mem (f := Prod.snd) (List.mem_of_mem_take member)
    rwa [links, map_snd_stamped] at mapped
  obtain ⟨position, drawn, same⟩ := List.mem_map.1 sampledPair
  obtain ⟨first, second, _⟩ := pick_sampled p stream (nodup_members valid n) drawn
  rw [ids_peopled valid n, ← same]
  exact ⟨first, second⟩

theorem nodup_links (valid : guarded.store.WellFormed) (made : Nat) :
    (((links p stream guarded n).take made).map Prod.snd).Nodup := by
  rw [List.map_take, links, map_snd_stamped]
  exact (nodup_map_pick p stream (nodup_members valid n)).sublist (List.take_sublist _ _)

theorem grown_split (made : Nat) :
    grown p stream guarded n made =
      (peopled guarded n).insertAll (((links p stream guarded n).take made).map .link) := by
  rw [grown, insertions, Store.insertAll_append]
  rfl

/-! ## Nodes -/

theorem ids_grown (p : Probability) (stream : Nat → Draw) (valid : guarded.store.WellFormed)
    (made : Nat) :
    (grown p stream guarded n made).ids = members guarded n := by
  rw [grown_split, Store.ids_insertAll_links (joins_links valid made), ids_peopled valid n]

theorem bareNode?_grown (valid : guarded.store.WellFormed) (made : Nat) (id : NodeId) :
    (grown p stream guarded n made).bareNode? id = (peopled guarded n).bareNode? id := by
  rw [grown_split, Store.bareNode?_insertAll_links (joins_links valid made)]

-- An accepted node has the time of its attempt for its history.
theorem nodeHistory_grown_of_accepted (valid : guarded.store.WellFormed) (made : Nat)
    {attempt : Nat × NodeId} (member : attempt ∈ attempts guarded.store n)
    (free : guarded.refuses attempt.2 = false) :
    (grown p stream guarded n made).nodeHistory attempt.2.toValue = .ok [attempt.1] := by
  have kept : attempt ∈ guarded.accepted (attempts guarded.store n) :=
    List.mem_filter.2 ⟨member, by simp [free]⟩
  have arrived := (Store.node?_insertAll_arrivals guarded.store _ (nodup_arrivals valid n)).1
    attempt kept
  rw [Store.nodeHistory_eq, bareNode?_grown valid, Store.bareNode?, peopled, arrived]
  rfl

-- Old nodes stay as they were, apart from their edges.
theorem bareNode?_grown_of_old (valid : guarded.store.WellFormed) (made : Nat) {id : NodeId}
    (old : id ∈ guarded.store.ids) :
    (grown p stream guarded n made).bareNode? id = guarded.store.bareNode? id := by
  have other : id ∉ (guarded.accepted (attempts guarded.store n)).map Prod.snd := by
    intro new
    exact (List.nodup_append.1 (nodup_arrivals valid n)).2.2 id old id new rfl
  have same := (Store.node?_insertAll_arrivals guarded.store _ (nodup_arrivals valid n)).2 id other
  rw [bareNode?_grown valid, Store.bareNode?, Store.bareNode?, peopled, same]

-- Whoever is refused is not there.
theorem not_mem_members_of_refused (valid : guarded.store.WellFormed) {id : NodeId}
    (member : id ∈ newIds guarded.store n) (refused : guarded.refuses id = true) :
    id ∉ members guarded n := by
  intro inside
  rcases List.mem_append.1 inside with old | new
  · exact (List.nodup_append.1 (nodup_everyone valid n)).2.2 id old id member rfl
  · have free := (List.mem_filter.1 new).2
    simp [refused] at free

/-! ## Edges -/

theorem edge?_peopled (valid : guarded.store.WellFormed) (source target : NodeId) :
    (peopled guarded n).edge? source target = guarded.store.edge? source target :=
  guarded.store.edge?_insertAll_arrivals _ (nodup_arrivals valid n) source target

theorem edge?_grown_of_mem (valid : guarded.store.WellFormed) {entry : Nat × NodeId × NodeId}
    (member : entry ∈ (links p stream guarded n).take made) :
    (grown p stream guarded n made).edge? entry.2.1 entry.2.2 =
      some (Store.linked entry.1 entry.2.2 (guarded.store.edge? entry.2.1 entry.2.2)) := by
  have hit := (Store.edge?_insertAll_links (joins_links valid made) (nodup_links valid made)).1
    entry member
  rw [grown_split, hit, edge?_peopled valid]

theorem edge?_grown_of_not_mem (valid : guarded.store.WellFormed) (pair : NodeId × NodeId)
    (absent : pair ∉ ((links p stream guarded n).take made).map Prod.snd) :
    (grown p stream guarded n made).edge? pair.1 pair.2 =
      guarded.store.edge? pair.1 pair.2 := by
  have kept := (Store.edge?_insertAll_links (joins_links valid made) (nodup_links valid made)).2
    pair absent
  rw [grown_split, kept, edge?_peopled valid]

-- No edge joins a node with itself because of a run.
theorem edge?_grown_self (valid : guarded.store.WellFormed) (made : Nat) (id : NodeId) :
    (grown p stream guarded n made).edge? id id = guarded.store.edge? id id := by
  apply edge?_grown_of_not_mem valid (id, id)
  intro member
  rw [List.map_take, links, map_snd_stamped] at member
  obtain ⟨position, drawn, same⟩ := List.mem_map.1 (List.mem_of_mem_take member)
  obtain ⟨_, _, apart⟩ := pick_sampled p stream (nodup_members valid n) drawn
  rw [same] at apart
  exact apart rfl

section Positions

variable {i j : Nat} {source target : NodeId}

-- The link of a sampled pair has the place of the pair among all of them.
theorem getElem?_links (first : (members guarded n)[i]? = some source)
    (second : (members guarded n)[j]? = some target)
    (drawn : (i, j) ∈ sampled p stream (members guarded n).length) :
    (links p stream guarded n)[(sampled p stream (members guarded n).length).idxOf (i, j)]? =
      some (startTime guarded.store + n + rank p stream (members guarded n).length (i, j),
        source, target) := by
  have place := List.idxOf_lt_length_of_mem drawn
  rw [links, getElem?_stamped, sampledPairs, List.getElem?_map, List.getElem?_eq_getElem place,
    List.getElem_idxOf place, Option.map_some, Option.map_some, pick_eq first second]
  rfl

/-- A pair of nodes is among the first links exactly if its own draw selects it and its rank is not
beyond them. -/
theorem mem_links_iff (p : Probability) (stream : Nat → Draw) (valid : guarded.store.WellFormed)
    (made : Nat) (first : (members guarded n)[i]? = some source)
    (second : (members guarded n)[j]? = some target) :
    (source, target) ∈ ((links p stream guarded n).take made).map Prod.snd ↔
      (i, j) ∈ sampled p stream (members guarded n).length ∧
        rank p stream (members guarded n).length (i, j) ≤ made := by
  have picked := pick_eq first second
  have inside : ∀ {k : Nat} {id : NodeId}, (members guarded n)[k]? = some id →
      k < (members guarded n).length := fun found => (List.getElem?_eq_some_iff.1 found).1
  rw [List.map_take, links, map_snd_stamped, sampledPairs, ← List.map_take, List.mem_map]
  constructor
  · rintro ⟨⟨k, l⟩, member, same⟩
    have drawn := List.mem_of_mem_take member
    obtain ⟨⟨third, fourth, _⟩, _⟩ := (mem_sampled p stream (members guarded n).length).1 drawn
    -- Distinct positions pick distinct pairs, so no other position made this link.
    have equal : (k, l) = (i, j) :=
      pick_inj (nodup_members valid n) ⟨third, fourth⟩ ⟨inside first, inside second⟩
        (same.trans picked.symm)
    rw [equal] at member drawn
    exact ⟨drawn, (List.mem_take_iff_idxOf_lt drawn).1 member⟩
  · rintro ⟨drawn, early⟩
    exact ⟨(i, j), (List.mem_take_iff_idxOf_lt drawn).2 early, picked⟩

/-- The times of an edge after a run: those of before, and one more at the rank of the pair if its
own draw selects it and the run came that far. -/
theorem edgeTimes_grown (valid : guarded.store.WellFormed) (made : Nat) (apart : i ≠ j)
    (first : (members guarded n)[i]? = some source)
    (second : (members guarded n)[j]? = some target) :
    (grown p stream guarded n made).edgeTimes source target =
      guarded.store.edgeTimes source target ++
        if p.selects (stream (drawIndex (members guarded n).length (i, j))) = true ∧
            rank p stream (members guarded n).length (i, j) ≤ made then
          [startTime guarded.store + n + rank p stream (members guarded n).length (i, j)]
        else [] := by
  have inside : ∀ {k : Nat} {id : NodeId}, (members guarded n)[k]? = some id →
      k < (members guarded n).length := fun found => (List.getElem?_eq_some_iff.1 found).1
  have decided : (i, j) ∈ sampled p stream (members guarded n).length ↔
      p.selects (stream (drawIndex (members guarded n).length (i, j))) = true := by
    rw [mem_sampled]
    exact and_iff_right ⟨inside first, inside second, Ne.symm apart⟩
  have joined := mem_links_iff p stream valid made first second
  rw [decided] at joined
  rw [Store.edgeTimes_eq, Store.edgeTimes_eq]
  split
  · next taken =>
    have drawn := decided.2 taken.1
    have member : (startTime guarded.store + n +
        rank p stream (members guarded n).length (i, j), source, target) ∈
        (links p stream guarded n).take made := by
      apply List.mem_of_getElem? (i := (sampled p stream (members guarded n).length).idxOf (i, j))
      rw [List.getElem?_take_of_lt taken.2]
      exact getElem?_links first second drawn
    rw [edge?_grown_of_mem valid member, Option.map_some, Option.getD_some, Store.times_linked]
  · next passed =>
    have kept := edge?_grown_of_not_mem valid (source, target)
      fun member => passed (joined.1 member)
    rw [kept, List.append_nil]

-- With all links made the draw alone decides.
theorem edgeTimes_grown_whole (valid : guarded.store.WellFormed) (apart : i ≠ j)
    (first : (members guarded n)[i]? = some source)
    (second : (members guarded n)[j]? = some target) :
    (grown p stream guarded n (links p stream guarded n).length).edgeTimes source target =
      guarded.store.edgeTimes source target ++
        if p.selects (stream (drawIndex (members guarded n).length (i, j))) = true then
          [startTime guarded.store + n + rank p stream (members guarded n).length (i, j)]
        else [] := by
  rw [edgeTimes_grown valid _ apart first second]
  congr 1
  apply if_congr _ rfl rfl
  refine and_iff_left_of_imp fun taken => ?_
  have drawn := (mem_sampled p stream (members guarded n).length).2
    ⟨⟨(List.getElem?_eq_some_iff.1 first).1, (List.getElem?_eq_some_iff.1 second).1,
      Ne.symm apart⟩, taken⟩
  rw [links, length_stamped, sampledPairs, List.length_map]
  exact List.idxOf_lt_length_of_mem drawn

end Positions

/-! ## The clock -/

theorem times_insertions (made : Nat) :
    ((insertions p stream guarded n made).map Insertion.time) =
      (guarded.accepted (attempts guarded.store n)).map Prod.fst ++
        ((links p stream guarded n).take made).map Prod.fst := by
  rw [insertions, List.map_append, List.map_map, List.map_map]
  rfl

-- The times of a run only grow.
theorem sorted_insertions (p : Probability) (stream : Nat → Draw) (guarded : GuardedStore)
    (n made : Nat) :
    (startTime guarded.store :: (insertions p stream guarded n made).map Insertion.time).Pairwise
      (· ≤ ·) := by
  -- Nodes take the first `n` times after the start and edges those behind; some are left out.
  have edges : ((links p stream guarded n).take made).Sublist (stamped
      (startTime guarded.store + (newIds guarded.store n).length)
      (sampledPairs p stream guarded n)) := by
    rw [newIds, Allocator.take_length]
    exact List.take_sublist made _
  rw [times_insertions]
  exact (pairwise_lt_stamped (List.filter_sublist (l := attempts guarded.store n)) edges).imp
    Nat.le_of_lt

theorem latest_grown (made : Nat) :
    (grown p stream guarded n made).latest =
      ((insertions p stream guarded n made).map Insertion.time).getLast?.or
        guarded.store.latest := by
  have sorted := List.pairwise_cons.1 (sorted_insertions p stream guarded n made)
  apply Store.latest_insertAll
  · intro insertion member
    exact sorted.1 insertion.time (List.mem_map_of_mem member)
  · exact sorted.2

end Generation

end TemporalNetwork
