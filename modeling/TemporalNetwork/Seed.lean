import TemporalNetwork.Decimal
import TemporalNetwork.Value

/-!
Seeds: thirty-two bytes, and the forms in which callers may hand them in.
-/

namespace TemporalNetwork

structure Seed where
  bytes : List UInt8
  length_eq : bytes.length = 32
  deriving DecidableEq

namespace Seed

def size : Nat := 32

inductive Fault where
  | text
  | unconvertible (kind : Value.Kind)
  | negativeCount
  | item (kind : Value.Kind)
  | itemRange
  | length (found : Nat)
  | countRange
  | countTooLarge
  | outOfMemory
  deriving DecidableEq, Repr

def Fault.message : Fault → String
  | .text => "Seed must be bytes or a sequence of ints, not str"
  | .unconvertible kind => sequence ("cannot convert '" ++ kind.name ++ "' object to bytes")
  | .negativeCount => sequence "negative count"
  | .item kind => sequence ("'" ++ kind.name ++ "' object cannot be interpreted as an integer")
  | .itemRange => sequence "bytes must be in range(0, 256)"
  | .length found =>
    "Seed must be exactly " ++ Decimal.ofNat size ++ " bytes, got " ++ Decimal.ofNat found
  | .countRange => "cannot fit 'int' into an index-sized integer"
  | .countTooLarge => "byte string is too large"
  | .outOfMemory => ""
where
  sequence (cause : String) : String := "Seed must be a sequence of ints in [0, 255]: " ++ cause

def Fault.isSize : Fault → Bool
  | .countRange | .countTooLarge | .outOfMemory => true
  | _ => false

def ofBytes (bytes : List UInt8) : Except Fault Seed :=
  if length_eq : bytes.length = 32 then .ok { bytes, length_eq } else .error (.length bytes.length)

def byteOfInt (n : Int) : Except Fault UInt8 :=
  if 0 ≤ n && n < 256 then .ok (UInt8.ofNat n.toNat) else .error .itemRange

def byteOfItem : Value → Except Fault UInt8
  | .int n => byteOfInt n
  | .bool truth => byteOfInt (if truth then 1 else 0)
  | .object traits _ =>
    match traits.index? with
    | some n => byteOfInt n
    | none => .error (.item (.object traits.className))
  | item => .error (.item item.kind)

def ofItems (items : List Value) : Except Fault Seed := do
  ofBytes (← items.mapM byteOfItem)

def zero : Seed := { bytes := List.replicate 32 0, length_eq := by simp }

/-- A count of zero bytes. It has to fit a machine word, and memory: `memory` is the greatest count
that is granted. -/
def ofCount (memory : Nat) (n : Int) : Except Fault Seed :=
  if n < Int64.minValue.toInt || Int64.maxValue.toInt < n then .error .countRange
  else if n < 0 then .error .negativeCount
  else if Int64.maxValue.toInt - 33 < n then .error .countTooLarge
  else if memory < n then .error .outOfMemory
  else if n = 32 then .ok zero
  else .error (.length n.toNat)

def ofObject (memory : Nat) (traits : Traits) (items : Option (List Value)) : Except Fault Seed :=
  match traits.bytes with
  | some content => ofBytes content
  | none =>
    match traits.index? with
    | some n => ofCount memory n
    | none =>
      match traits.view with
      | some content => ofBytes content
      | none =>
        match items with
        | some items => ofItems items
        | none => .error (.unconvertible (.object traits.className))

/-- The seed that a value stands for: bytes as they are, a sequence item by item, a dict by its
keys, and a whole number as so many zero bytes. -/
def coerce (memory : Nat) : Value → Except Fault Seed
  | .bytes content => ofBytes content
  | .buffer content => ofBytes content
  | .text _ => .error .text
  | .list items => ofItems items
  | .tuple items => ofItems items
  | .dict entries => ofItems (entries.map (·.1))
  | .int n => ofCount memory n
  | .bool truth => ofCount memory (if truth then 1 else 0)
  | .object traits items => ofObject memory traits items
  | value => .error (.unconvertible value.kind)

end Seed

/-- What the system grants a run: bytes of its own choice, and so many zero bytes at once. -/
structure Resources where
  entropy : Seed
  memory : Nat
  room : Seed.size ≤ memory

def Resources.zero : Resources :=
  { entropy := .zero, memory := Seed.size, room := Nat.le_refl _ }

end TemporalNetwork
