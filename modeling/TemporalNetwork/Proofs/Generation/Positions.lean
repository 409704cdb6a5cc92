import TemporalNetwork.Proofs.Draws.Stream
import TemporalNetwork.Generation.Run

/-!
Positions in a list of nodes. The ordered pairs of distinct positions come row by row, and each has
its own draw: the draw number of the pairs, in their order, counts up from zero without a gap.
-/

namespace TemporalNetwork.Generation

def positions (n : Nat) : List (Nat × Nat) :=
  (List.range n).flatMap fun i => ((List.range n).filter (· ≠ i)).map (i, ·)

/-- The number of the draw that decides a pair: the pairs of the rows before, and the places before
it in its own row, where the diagonal has none. -/
def drawIndex (n : Nat) (position : Nat × Nat) : Nat :=
  position.1 * (n - 1) + if position.2 < position.1 then position.2 else position.2 - 1

theorem mem_positions {n i j : Nat} : (i, j) ∈ positions n ↔ i < n ∧ j < n ∧ j ≠ i := by
  simp [positions]

-- A row has every place but the diagonal.
theorem filter_ne_range {n i : Nat} (inside : i < n) :
    (List.range n).filter (· ≠ i) = List.range i ++ List.range' (i + 1) (n - 1 - i) := by
  have parts : List.range n = List.range i ++ i :: List.range' (i + 1) (n - 1 - i) := by
    have size : n = i + (n - 1 - i + 1) := by omega
    rw [List.range_eq_range', List.range_eq_range', ← List.range'_succ]
    conv => lhs; rw [size]
    rw [← List.range'_append_1, Nat.zero_add]
  have before : (List.range i).filter (· ≠ i) = List.range i := by
    rw [List.filter_eq_self]
    intro j member
    have := List.mem_range.1 member
    simp only [ne_eq, decide_eq_true_eq]
    omega
  have behind : (List.range' (i + 1) (n - 1 - i)).filter (· ≠ i) =
      List.range' (i + 1) (n - 1 - i) := by
    rw [List.filter_eq_self]
    intro j member
    have := (List.mem_range'_1.1 member).1
    simp only [ne_eq, decide_eq_true_eq]
    omega
  rw [parts, List.filter_append, List.filter_cons, before, behind]
  simp

-- The draws of a row follow one another.
theorem drawIndex_row {n i : Nat} (inside : i < n) :
    (((List.range n).filter (· ≠ i)).map (i, ·)).map (drawIndex n) =
      List.range' (i * (n - 1)) (n - 1) := by
  have before : (List.range i).map (drawIndex n ∘ (i, ·)) = List.range' (i * (n - 1)) i := by
    rw [List.range_eq_range', ← Nat.add_zero (i * (n - 1)), ← List.map_add_range']
    apply List.map_congr_left
    intro j member
    have := (List.mem_range'_1.1 member).2
    simp only [Function.comp_apply, drawIndex]
    rw [if_pos (by omega)]
  have behind : (List.range' (i + 1) (n - 1 - i)).map (drawIndex n ∘ (i, ·)) =
      List.range' (i * (n - 1) + i) (n - 1 - i) := by
    have shifted : List.range' (i + 1) (n - 1 - i) = (List.range' i (n - 1 - i)).map (1 + ·) := by
      rw [List.map_add_range', Nat.add_comm]
    rw [shifted, List.map_map, ← List.map_add_range']
    apply List.map_congr_left
    intro j member
    have := (List.mem_range'_1.1 member).1
    simp only [Function.comp_apply, drawIndex]
    rw [if_neg (by omega)]
    omega
  rw [List.map_map, filter_ne_range inside, List.map_append, before, behind, List.range'_append_1]
  congr 1
  omega

theorem flatMap_rows (rows width : Nat) :
    (List.range rows).flatMap (fun i => List.range' (i * width) width) =
      List.range (rows * width) := by
  induction rows with
  | zero => simp
  | succ rows ih =>
    rw [List.range_succ, List.flatMap_append, ih, List.flatMap_singleton, List.range_eq_range',
      List.range_eq_range', Nat.succ_mul]
    have joined := @List.range'_append_1 0 (rows * width) width
    rwa [Nat.zero_add] at joined

/-- The pairs, in their order, have the draws from zero on. -/
theorem map_drawIndex_positions (n : Nat) :
    (positions n).map (drawIndex n) = List.range (n * (n - 1)) := by
  rw [positions, List.map_flatMap, ← flatMap_rows, List.flatMap_def, List.flatMap_def]
  congr 1
  apply List.map_congr_left
  intro i member
  exact drawIndex_row (List.mem_range.1 member)

theorem length_positions (n : Nat) : (positions n).length = n * (n - 1) := by
  rw [← List.length_map (drawIndex n), map_drawIndex_positions, List.length_range]

-- No two pairs share a draw.
theorem nodup_positions (n : Nat) : (positions n).Nodup := by
  -- The draws of the pairs are all different, so the pairs are.
  have distinct : ((positions n).map (drawIndex n)).Nodup := by
    rw [map_drawIndex_positions]
    exact List.nodup_range
  exact List.Pairwise.of_map (drawIndex n) (fun _ _ differ same => differ (same ▸ rfl)) distinct

/-! ## Positions of ids -/

def pick (ids : List NodeId) (position : Nat × Nat) : NodeId × NodeId :=
  (ids.getD position.1 default, ids.getD position.2 default)

theorem pick_eq {ids : List NodeId} {i j : Nat} {source target : NodeId}
    (first : ids[i]? = some source) (second : ids[j]? = some target) :
    pick ids (i, j) = (source, target) := by
  simp [pick, List.getD_eq_getElem?_getD, first, second]

theorem map_getD_range (ids : List NodeId) :
    (List.range ids.length).map (ids.getD · default) = ids := by
  apply List.ext_getElem
  · simp
  · intro i _ inside
    simp [inside]

-- Whatever is asked of every pair of nodes, a node with itself apart, is asked of the positions.
theorem filter_allPairs {ids : List NodeId} (distinct : ids.Nodup) :
    (allPairs ids).filter (fun pair => pair.1 ≠ pair.2) =
      (positions ids.length).map (pick ids) := by
  -- The ids are distinct, so two of them differ exactly when their positions do.
  have row : ∀ i ∈ List.range ids.length,
      (ids.map (ids.getD i default, ·)).filter (fun pair => pair.1 ≠ pair.2) =
        (((List.range ids.length).filter (· ≠ i)).map (i, ·)).map (pick ids) := by
    intro i inside
    conv => lhs; arg 2; arg 2; rw [← map_getD_range ids]
    rw [List.map_map, List.filter_map, List.map_map]
    have same : (List.range ids.length).filter
        ((fun pair : NodeId × NodeId => decide (pair.1 ≠ pair.2)) ∘
          ((ids.getD i default, ·) ∘ (ids.getD · default))) =
        (List.range ids.length).filter (· ≠ i) := by
      apply List.filter_congr
      intro j also
      simp only [Function.comp_apply, ne_eq, decide_eq_decide]
      rw [List.getD_inj (List.mem_range.1 inside) (List.mem_range.1 also) distinct]
      exact ne_comm
    rw [same]
    rfl
  rw [allPairs, positions, List.filter_flatMap, List.map_flatMap]
  conv => lhs; arg 2; rw [← map_getD_range ids]
  rw [List.flatMap_map, List.flatMap_def, List.flatMap_def]
  congr 1
  exact List.map_congr_left row

end TemporalNetwork.Generation
