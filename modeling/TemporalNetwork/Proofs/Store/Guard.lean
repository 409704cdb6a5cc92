import TemporalNetwork.Store.Guard

/-!
What a guard does: whom it refuses is settled by the id, and the edge insertion that it breaks by its
number alone. It breaks at most one.
-/

namespace TemporalNetwork.GuardedStore

/-! ## Refusing nodes -/

def refuses (guarded : GuardedStore) (id : NodeId) : Bool :=
  (guarded.nodeRefusal? id.toValue).isSome

theorem refuses_store (guarded : GuardedStore) (store : Store) (id : NodeId) :
    refuses { guarded with store } id = guarded.refuses id := rfl

-- The guard refuses in one way only.
theorem nodeRefusal?_of_refuses {guarded : GuardedStore} {id : NodeId}
    (refused : guarded.refuses id = true) :
    guarded.nodeRefusal? id.toValue = some (.taken id.toValue) := by
  obtain ⟨refusal, found⟩ := Option.isSome_iff_exists.1 refused
  rw [found]
  rw [nodeRefusal?] at found
  split at found
  · cases found
  · simp only [Option.ite_none_right_eq_some] at found
    exact found.2.symm

/-! ## Breaking an edge -/

def counted (guard : Option Guard) (m : Nat) : Option Guard :=
  guard.map fun guard => { guard with edgeCalls := guard.edgeCalls + m }

/-- Whether the edge insertion number `m` from now on is the one to break. -/
def breaksAt (guarded : GuardedStore) (m : Nat) : Bool :=
  guarded.guard.any fun guard => guard.failingEdge == some ((guard.edgeCalls + m : Nat) : Int)

theorem counted_counted (guard : Option Guard) (k m : Nat) :
    counted (counted guard k) m = counted guard (k + m) := by
  cases guard <;> simp [counted, Nat.add_assoc]

theorem counted_zero (guard : Option Guard) : counted guard 0 = guard := by
  cases guard <;> rfl

theorem breaksAt_counted (guarded : GuardedStore) (store : Store) (k m : Nat) :
    breaksAt { store, guard := counted guarded.guard k } m = guarded.breaksAt (k + m) := by
  rcases guarded with ⟨_, guard⟩
  cases guard <;> simp [breaksAt, counted, Int.add_assoc]

-- At most one insertion is broken.
theorem breaksAt_unique {guarded : GuardedStore} {k m : Nat} (first : guarded.breaksAt k = true)
    (second : guarded.breaksAt m = true) : k = m := by
  rcases guarded with ⟨_, guard⟩
  cases guard with
  | none => cases first
  | some guard =>
    simp only [breaksAt, Option.any_some, beq_iff_eq] at first second
    have same := Option.some.inj (first.symm.trans second)
    omega

theorem countEdge_eq (guarded : GuardedStore) :
    guarded.countEdge =
      ({ guarded with guard := counted guarded.guard 1 }, guarded.breaksAt 1) := by
  rcases guarded with ⟨_, guard⟩
  cases guard <;> rfl

end TemporalNetwork.GuardedStore
