import Mathlib.Data.List.Nodup
import TemporalNetwork.Proofs.Generation.Positions

/-!
Sampling. Items are decided one after the other by the draws of a stream; those that are selected
keep their order. When the items are numbered, what the loop selects is what a filter by the draw of
each number selects, so the pairs of positions are sampled without looking at the loop.
-/

namespace TemporalNetwork.Generation

variable {α β : Type} (p : Probability)

/-- The items whose draw selects. Every item takes a draw. -/
def selected (stream : Nat → Draw) : List α → List α
  | [] => []
  | item :: rest =>
    if p.selects (stream 0) then item :: selected (fun k => stream (k + 1)) rest
    else selected (fun k => stream (k + 1)) rest

theorem selected_map (f : α → β) (stream : Nat → Draw) (items : List α) :
    selected p stream (items.map f) = (selected p stream items).map f := by
  induction items generalizing stream with
  | nil => rfl
  | cons item rest ih =>
    simp only [List.map_cons, selected, ih]
    split <;> rfl

-- Items that are numbered from `start` on are selected by their numbers.
theorem selected_eq_filter (index : α → Nat) (stream : Nat → Draw) (start : Nat)
    (items : List α) (numbered : items.map index = List.range' start items.length) :
    selected p (fun k => stream (start + k)) items =
      items.filter fun item => p.selects (stream (index item)) := by
  induction items generalizing start with
  | nil => rfl
  | cons item rest ih =>
    rw [List.map_cons, List.length_cons, List.range'_succ, List.cons.injEq] at numbered
    obtain ⟨first, later⟩ := numbered
    -- The stream moves on by one with every item, and so do the numbers.
    have tail := ih (start + 1) later
    have shifted : (fun k => stream (start + (k + 1))) = fun k => stream (start + 1 + k) := by
      funext k
      rw [Nat.add_assoc start 1 k, Nat.add_comm 1 k]
    rw [selected, shifted, tail, List.filter_cons, first, Nat.add_zero]

theorem selects_one (draw : Draw) : (Probability.ofInt 1).selects draw = true := by
  simp only [Probability.selects, Probability.ofInt, Probability.exceeds, decide_eq_true_eq]
  show ((draw.val <<< 0 : Nat) : Int) < 1 <<< 53
  rw [Nat.shiftLeft_zero]
  exact Int.ofNat_lt.mpr draw.isLt

/-! ## Pairs of positions -/

variable (stream : Nat → Draw) (n : Nat)

def sampled : List (Nat × Nat) :=
  (positions n).filter fun position => p.selects (stream (drawIndex n position))

/-- The place of a sampled pair among all of them, counted from one. -/
def rank (position : Nat × Nat) : Nat := (sampled p stream n).idxOf position + 1

theorem mem_sampled {i j : Nat} :
    (i, j) ∈ sampled p stream n ↔
      (i < n ∧ j < n ∧ j ≠ i) ∧ p.selects (stream (drawIndex n (i, j))) = true := by
  simp [sampled, mem_positions]

theorem nodup_sampled : (sampled p stream n).Nodup :=
  (nodup_positions n).filter _

/-- The loop over all pairs of nodes, a node with itself apart, selects the sampled positions. -/
theorem selected_allPairs {ids : List NodeId} (distinct : ids.Nodup) :
    selected p stream ((allPairs ids).filter fun pair => pair.1 ≠ pair.2) =
      (sampled p stream ids.length).map (pick ids) := by
  have numbered : (positions ids.length).map (drawIndex ids.length) =
      List.range' 0 (positions ids.length).length := by
    rw [map_drawIndex_positions, length_positions, List.range_eq_range']
  have chosen := selected_eq_filter p (drawIndex ids.length) stream 0 _ numbered
  simp only [Nat.zero_add] at chosen
  rw [filter_allPairs distinct, selected_map, chosen, sampled]

/-! ## Picked pairs -/

variable {ids : List NodeId}

theorem pick_inj (distinct : ids.Nodup) {position other : Nat × Nat}
    (inside : position.1 < ids.length ∧ position.2 < ids.length)
    (also : other.1 < ids.length ∧ other.2 < ids.length)
    (same : pick ids position = pick ids other) : position = other := by
  rw [pick, pick, Prod.mk.injEq, List.getD_inj inside.1 also.1 distinct,
    List.getD_inj inside.2 also.2 distinct] at same
  exact Prod.ext same.1 same.2

-- What a sampled pair picks: two different nodes of the list.
theorem pick_sampled (distinct : ids.Nodup) {position : Nat × Nat}
    (member : position ∈ sampled p stream ids.length) :
    (pick ids position).1 ∈ ids ∧ (pick ids position).2 ∈ ids ∧
      (pick ids position).1 ≠ (pick ids position).2 := by
  obtain ⟨i, j⟩ := position
  obtain ⟨⟨first, second, apart⟩, _⟩ := (mem_sampled p stream ids.length).1 member
  have read : ∀ {k} (inside : k < ids.length), ids.getD k default = ids[k] := by
    intro k inside
    simp [inside]
  refine ⟨?_, ?_, ?_⟩
  · simp only [pick, read first]
    exact List.getElem_mem first
  · simp only [pick, read second]
    exact List.getElem_mem second
  · intro same
    exact apart ((List.getD_inj first second distinct).1 same).symm

theorem nodup_map_pick (distinct : ids.Nodup) :
    ((sampled p stream ids.length).map (pick ids)).Nodup := by
  refine List.Nodup.map_on ?_ (nodup_sampled p stream ids.length)
  rintro ⟨i, j⟩ member ⟨k, l⟩ also same
  obtain ⟨⟨first, second, _⟩, _⟩ := (mem_sampled p stream ids.length).1 member
  obtain ⟨⟨third, fourth, _⟩, _⟩ := (mem_sampled p stream ids.length).1 also
  exact pick_inj distinct ⟨first, second⟩ ⟨third, fourth⟩ same

end TemporalNetwork.Generation
