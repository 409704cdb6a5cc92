import TemporalNetwork.Json.Parser
import TemporalNetwork.Proofs.Decimal

/-!
Whole numbers are read back from their decimal text, whatever follows that does not go on the
number.
-/

namespace TemporalNetwork

/-- What follows a value and cannot be taken for more of it: no digit, no point and no exponent. -/
def Json.Ends (rest : List Char) : Prop :=
  ∀ c more, rest = c :: more → c.isDigit = false ∧ c ≠ '.' ∧ c ≠ 'e' ∧ c ≠ 'E'

namespace Double

theorem spanDigits_append {ds rest : List Char} (digits : ∀ c ∈ ds, c.isDigit = true)
    (ends : ∀ c more, rest = c :: more → c.isDigit = false) :
    spanDigits (ds ++ rest) = (ds, rest) := by
  have stops : rest.takeWhile Char.isDigit = [] ∧ rest.dropWhile Char.isDigit = rest := by
    cases rest with
    | nil => exact ⟨rfl, rfl⟩
    | cons c more => simp [ends c more rfl]
  rw [spanDigits, List.takeWhile_append_of_pos digits, List.dropWhile_append_of_pos digits,
    stops.1, stops.2, List.append_nil]

end Double

namespace Json

variable {rest : List Char}

theorem ends_nil : Ends [] := by
  intro c more same
  cases same

theorem ends_cons {c : Char} {more : List Char}
    (apart : c.isDigit = false ∧ c ≠ '.' ∧ c ≠ 'e' ∧ c ≠ 'E') : Ends (c :: more) := by
  intro other others same
  cases same
  exact apart

theorem wholeDigits_digits (n : Nat) (ends : Ends rest) :
    wholeDigits (Decimal.digits n ++ rest) = (Decimal.digits n, rest) := by
  have span := Double.spanDigits_append (Decimal.isDigit_of_mem_digits n)
    fun c more same => (ends c more same).1
  by_cases positive : 0 < n
  · obtain ⟨d, ds, same, nonzero⟩ := Decimal.head_digits n positive
    rw [same] at span ⊢
    rw [List.cons_append] at span ⊢
    rw [wholeDigits, span]
    intro more begins
    cases begins
    exact nonzero rfl
  · have zero : n = 0 := by omega
    subst zero
    rw [Decimal.digits_of_lt (by decide)]
    rfl

theorem fraction_of_ends (ends : Ends rest) : fraction rest = ([], rest) := by
  cases rest with
  | nil => rfl
  | cons c more =>
    rw [fraction]
    intro d others same
    cases same
    exact (ends '.' (d :: others) rfl).2.1 rfl

theorem exponent?_of_ends (ends : Ends rest) : exponent? rest = none := by
  cases rest with
  | nil => rfl
  | cons c more =>
    obtain ⟨_, _, small, big⟩ := ends c more rfl
    simp [exponent?, small, big]

theorem digits_append_ne_minus (n : Nat) (rest body : List Char) :
    Decimal.digits n ++ rest ≠ '-' :: body := by
  intro same
  obtain ⟨d, ds, digits, digit⟩ := Decimal.digits_cons n
  rw [digits, List.cons_append, List.cons.injEq] at same
  rw [same.1] at digit
  exact absurd digit (by decide)

theorem readNumber_ofInt (n : Int) (fits : Decimal.fits n = true) (ends : Ends rest) :
    readNumber ((Decimal.ofInt n).toList ++ rest) = .ok (.int n, rest) := by
  have whole := fun m => wholeDigits_digits m ends
  have some : ∀ m, (Decimal.digits m).isEmpty = false := fun m => by
    simpa using Decimal.digits_ne_nil m
  rw [Decimal.fits, decide_eq_true_eq] at fits
  cases n with
  | ofNat m =>
    have short : ¬Decimal.mostDigits < (Decimal.digits m).length := Nat.not_lt.2 fits
    rw [Decimal.ofInt, Decimal.ofNat, String.toList_ofList, readNumber]
    · simp only [whole, some, fraction_of_ends ends, exponent?_of_ends ends, short,
        Decimal.value_digits]
      rfl
    · exact digits_append_ne_minus m rest
  | negSucc m =>
    have short : ¬Decimal.mostDigits < (Decimal.digits (m + 1)).length := Nat.not_lt.2 fits
    have text : (Decimal.ofInt (.negSucc m)).toList = '-' :: Decimal.digits (m + 1) := by
      simp [Decimal.ofInt, Decimal.ofNat]
    rw [text, List.cons_append, readNumber]
    simp only [whole, some, fraction_of_ends ends, exponent?_of_ends ends, short,
      Decimal.value_digits]
    rfl

end Json

end TemporalNetwork
