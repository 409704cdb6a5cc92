/-!
Decimal text of whole numbers: no leading zeros, and a minus sign in front of a negative number.
Main statement: the digits of a number read back as that number, so distinct numbers have distinct
texts.
-/

namespace TemporalNetwork.Decimal

def digitChar (d : Nat) : Char := Char.ofNat (48 + d)

def digits (n : Nat) : List Char :=
  if n < 10 then [digitChar n] else digits (n / 10) ++ [digitChar (n % 10)]

def digitValue (c : Char) : Nat := c.toNat - 48

def value (ds : List Char) : Nat := ds.foldl (fun n c => 10 * n + digitValue c) 0

theorem digitValue_digitChar : ∀ d < 10, digitValue (digitChar d) = d := by decide

theorem isDigit_digitChar : ∀ d < 10, (digitChar d).isDigit = true := by decide

theorem digits_ne_nil (n : Nat) : digits n ≠ [] := by
  rw [digits]; split <;> simp

theorem value_digits (n : Nat) : value (digits n) = n := by
  rw [digits]
  split
  · next small => simp [value, digitValue_digitChar n small]
  · next large =>
    have shorter := value_digits (n / 10)
    simp only [value, List.foldl_append, List.foldl_cons, List.foldl_nil] at shorter ⊢
    rw [shorter, digitValue_digitChar _ (by omega)]
    omega
termination_by n
decreasing_by omega

theorem digits_injective {m n : Nat} (same : digits m = digits n) : m = n := by
  rw [← value_digits m, ← value_digits n, same]

theorem isDigit_of_mem_digits (n : Nat) : ∀ c ∈ digits n, c.isDigit = true := by
  rw [digits]
  split
  · next small => simpa using isDigit_digitChar n small
  · intro c member
    rcases List.mem_append.1 member with earlier | last
    · exact isDigit_of_mem_digits (n / 10) c earlier
    · rw [List.mem_singleton.1 last]; exact isDigit_digitChar _ (by omega)
termination_by n
decreasing_by omega

def ofNat (n : Nat) : String := String.ofList (digits n)

def ofInt : Int → String
  | .ofNat n => ofNat n
  | .negSucc n => "-" ++ ofNat (n + 1)

/-- The greatest number of digits that the text of a number may have where it is read or written. -/
def mostDigits : Nat := 4300

def fits (n : Int) : Bool := (digits n.natAbs).length ≤ mostDigits

def tooLongMessage : String :=
  "Exceeds the limit (" ++ ofNat mostDigits ++ " digits) for integer string conversion; use " ++
    "sys.set_int_max_str_digits() to increase the limit"

def tooManyMessage (count : Nat) : String :=
  "Exceeds the limit (" ++ ofNat mostDigits ++ " digits) for integer string conversion: value has " ++
    ofNat count ++ " digits; use sys.set_int_max_str_digits() to increase the limit"

theorem ofNat_injective {m n : Nat} (same : ofNat m = ofNat n) : m = n :=
  digits_injective (by simpa [ofNat] using congrArg String.toList same)

end TemporalNetwork.Decimal
