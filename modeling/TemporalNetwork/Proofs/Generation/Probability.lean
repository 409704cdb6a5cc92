import Mathlib.Algebra.Field.Rat
import Mathlib.Algebra.Order.Field.Basic
import Mathlib.Algebra.Order.Field.Rat
import Mathlib.Order.WithBotTop
import Mathlib.Tactic.Positivity
import TemporalNetwork.Proofs.Generation.Sampling

/-!
Probabilities as numbers. A probability that is a number at all is a fraction or one of the two
infinities, and the comparison by shifts is the comparison of fractions: a draw selects when it is
below the number. So more is selected the greater the probability, nothing at or below zero, and
everything at or above one.
-/

namespace TemporalNetwork

def Draw.fraction (draw : Draw) : ℚ := draw.val / 2 ^ 53

theorem Draw.fraction_lt_one (draw : Draw) : draw.fraction < 1 := by
  rw [fraction, div_lt_one (by positivity)]
  exact_mod_cast draw.isLt

namespace Probability

def number? : Probability → Option (WithBotTop ℚ)
  | .undefined => none
  | .infinite true => some ⊥
  | .infinite false => some ⊤
  | .exact significand exponent => some ((significand : ℚ) * 2 ^ exponent : ℚ)

/-- Both are numbers, and the one is not above the other. -/
instance : LE Probability where
  le p q := ∃ x y, p.number? = some x ∧ q.number? = some y ∧ x ≤ y

theorem number?_ofInt (n : Int) : (ofInt n).number? = some ((n : ℚ) : WithBotTop ℚ) := by
  simp [ofInt, number?]

/-! ## The comparison by shifts -/

-- One of the two shifts is by nothing; the exponent is their difference.
theorem exceeds_iff (k : Nat) (significand exponent : Int) :
    exceeds k significand exponent = true ↔
      (k : ℚ) / 2 ^ 53 < (significand : ℚ) * 2 ^ exponent := by
  have parts : exponent = (exponent.toNat : Int) - ((-exponent).toNat : Int) := by omega
  have scale : (2 : ℚ) ^ exponent = 2 ^ exponent.toNat / 2 ^ (-exponent).toNat := by
    conv => lhs; rw [parts]
    rw [zpow_sub₀ two_ne_zero, zpow_natCast, zpow_natCast]
  have whole : exceeds k significand exponent = true ↔
      (k : ℚ) * 2 ^ (-exponent).toNat < (significand : ℚ) * 2 ^ (exponent.toNat + 53) := by
    simp only [exceeds, decide_eq_true_eq, Nat.shiftLeft_eq, Int.shiftLeft_eq]
    exact_mod_cast Iff.rfl
  rw [whole, scale, div_lt_iff₀ (by positivity), mul_div_assoc', div_mul_eq_mul_div,
    lt_div_iff₀ (by positivity), pow_add, mul_assoc]

/-- A draw selects exactly when it is below the number that the probability is. -/
theorem selects_iff (p : Probability) (draw : Draw) :
    p.selects draw = true ↔
      ∃ x, p.number? = some x ∧ (draw.fraction : WithBotTop ℚ) < x := by
  cases p with
  | undefined => simp [selects, number?]
  | infinite negative =>
    cases negative with
    | true => simp [selects, number?]
    | false =>
      have above : (draw.fraction : WithBotTop ℚ) < ⊤ :=
        WithBot.coe_lt_coe.2 (WithTop.coe_lt_top draw.fraction)
      simpa [selects, number?] using above
  | exact significand exponent =>
    simp only [selects, number?, Option.some.injEq, exists_eq_left', exceeds_iff]
    exact WithBotTop.coe_lt_coe.symm

/-! ## What is selected -/

variable {p q : Probability} {draw : Draw}

theorem selects_mono (order : p ≤ q) (below : p.selects draw = true) : q.selects draw = true := by
  obtain ⟨x, y, first, second, atMost⟩ := order
  obtain ⟨z, same, less⟩ := (p.selects_iff draw).1 below
  obtain rfl : x = z := Option.some.inj (first.symm.trans same)
  exact (q.selects_iff draw).2 ⟨y, second, less.trans_le atMost⟩

/-- A probability at which no pair is selected: no number, or one that is not above zero. -/
def Barren (p : Probability) : Prop := p = .undefined ∨ p ≤ .ofInt 0

theorem Barren.selects (barren : p.Barren) (draw : Draw) : p.selects draw = false := by
  rcases barren with rfl | order
  · rfl
  · rw [Bool.eq_false_iff]
    intro below
    have zero := selects_mono order below
    rw [ofInt, selects_of_nonpos (Int.le_refl 0)] at zero
    cases zero

theorem selects_of_one_le (order : .ofInt 1 ≤ p) (draw : Draw) : p.selects draw = true := by
  apply selects_mono order
  rw [selects_iff, number?_ofInt]
  exact ⟨_, rfl, WithBotTop.coe_lt_coe.2 (by exact_mod_cast draw.fraction_lt_one)⟩

end Probability

namespace Generation

/-! ## Sampled positions -/

variable {p q : Probability}

theorem sampled_mono (order : p ≤ q) (stream : Nat → Draw) (size : Nat) :
    sampled p stream size ⊆ sampled q stream size := by
  rintro ⟨i, j⟩ member
  obtain ⟨inside, taken⟩ := (mem_sampled p stream size).1 member
  exact (mem_sampled q stream size).2 ⟨inside, Probability.selects_mono order taken⟩

theorem sampled_of_one_le (order : .ofInt 1 ≤ p) (stream : Nat → Draw) (size : Nat) :
    sampled p stream size = positions size := by
  rw [sampled, List.filter_eq_self]
  intro position _
  exact Probability.selects_of_one_le order _

theorem sampled_of_barren (barren : p.Barren) (stream : Nat → Draw) (size : Nat) :
    sampled p stream size = [] := by
  rw [sampled, List.filter_eq_nil_iff]
  intro position _
  rw [barren.selects]
  exact Bool.false_ne_true

end Generation

end TemporalNetwork
