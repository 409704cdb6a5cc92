import TemporalNetwork.Draws.Twister
import TemporalNetwork.Value

/-!
Edge probabilities. A draw `k / 2^53` selects an edge when it is below the probability; the
comparison is exact, so nothing is selected at or below zero and everything at or above one.
-/

namespace TemporalNetwork

inductive Probability where
  | undefined
  | infinite (negative : Bool)
  | exact (significand : Int) (exponent : Int)
  deriving DecidableEq, Repr

namespace Probability

def ofInt (n : Int) : Probability := .exact n 0

def ofDouble : Double → Probability
  | .nan => .undefined
  | .infinite negative => .infinite negative
  | .finite negative significand exponent =>
    .exact (if negative then -(significand : Int) else significand) exponent

def ofValue : Value → Except Value.Kind Probability
  | .float x => .ok (ofDouble x)
  | .int n => .ok (ofInt n)
  | .bool truth => .ok (ofInt (if truth then 1 else 0))
  | .object traits _ =>
    match traits.ordered? with
    | some n => .ok (ofInt n)
    | none => .error (.object traits.className)
  | value => .error value.kind

/-- `k / 2^53 < significand * 2^exponent`, multiplied out. -/
def exceeds (k : Nat) (significand exponent : Int) : Bool :=
  k <<< (-exponent).toNat < significand <<< (exponent.toNat + 53)

def selects (p : Probability) (draw : Draw) : Bool :=
  match p with
  | .undefined => false
  | .infinite negative => !negative
  | .exact significand exponent => exceeds draw.val significand exponent

theorem selects_undefined (draw : Draw) : undefined.selects draw = false := rfl

theorem selects_of_nonpos {significand : Int} (nonpos : significand ≤ 0) (exponent : Int)
    (draw : Draw) : (exact significand exponent).selects draw = false := by
  simp only [selects, exceeds, decide_eq_false_iff_not, Int.not_lt]
  have below : significand <<< (exponent.toNat + 53) ≤ 0 := by
    rw [Int.shiftLeft_eq]
    exact Int.mul_nonpos_of_nonpos_of_nonneg nonpos (Int.le_of_lt (Int.pow_pos (by decide)))
  exact Int.le_trans below (Int.natCast_nonneg _)

end Probability

end TemporalNetwork
