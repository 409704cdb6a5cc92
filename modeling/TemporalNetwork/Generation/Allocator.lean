import TemporalNetwork.Store

/-!
Allocation of ids for new nodes. Whole numbers count on from the last id; among texts the next one
is the least decimal text, counted from the number of known ids, that is not in use. Main
statement: a text that is allocated is in use nowhere.
-/

namespace TemporalNetwork

/-- The least number from `k` on whose decimal text is not in use. Each collision takes one id out
of the list, so the search ends. -/
def firstUnused (used : List NodeId) (k : Nat) : Nat :=
  if taken : .text (Decimal.ofNat k) ∈ used then
    firstUnused (used.erase (.text (Decimal.ofNat k))) (k + 1)
  else k
termination_by used.length
decreasing_by
  rw [List.length_erase_of_mem taken]
  exact Nat.sub_lt (List.length_pos_of_mem taken) Nat.one_pos

theorem le_firstUnused (used : List NodeId) (k : Nat) : k ≤ firstUnused used k := by
  fun_induction firstUnused used k with
  | case1 used k taken ih => omega
  | case2 => exact Nat.le_refl _

theorem firstUnused_fresh (used : List NodeId) (k : Nat) :
    .text (Decimal.ofNat (firstUnused used k)) ∉ used := by
  fun_induction firstUnused used k with
  | case1 used k taken ih =>
    intro member
    refine ih ((List.mem_erase_of_ne fun same => ?_).2 member)
    have later := le_firstUnused (used.erase (.text (Decimal.ofNat k))) (k + 1)
    have equal := Decimal.ofNat_injective (Text.whole.inj (NodeId.text.inj same))
    omega
  | case2 used k free => exact free

/-- How the next id comes about: by counting on from the last one, or by naming with a number not
below `next` beside the ids in use. -/
inductive Allocator where
  | counting (last : Int)
  | naming (used : List NodeId) (next : Nat)
  deriving Repr

namespace Allocator

def beside (store : Store) : Allocator := .naming store.ids store.nodeCount

def after (store : Store) : Option NodeId → Allocator
  | none => .counting (-1)
  | some (.int n) => .counting n
  | some (.text _) => beside store

def ofStore (store : Store) : Allocator := after store (NodeId.greatest? store.ids)

def next : Allocator → NodeId × Allocator
  | .counting last => (.int (last + 1), .counting (last + 1))
  | .naming used k =>
    let found := firstUnused used k
    (.text (Decimal.ofNat found), .naming used (found + 1))

def take : Nat → Allocator → List NodeId
  | 0, _ => []
  | n + 1, allocator => allocator.next.1 :: take n allocator.next.2

theorem take_length (n : Nat) (allocator : Allocator) : (allocator.take n).length = n := by
  induction n generalizing allocator with
  | zero => rfl
  | succ n ih => simp [take, ih]

theorem next_naming_fresh (used : List NodeId) (k : Nat) :
    (Allocator.naming used k).next.1 ∉ used := firstUnused_fresh used k

end Allocator

end TemporalNetwork
