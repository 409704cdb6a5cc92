/-!
Numbers in double precision, kept as sign, significand and binary exponent, so that rounding and
comparison are exact arithmetic on whole numbers. Rounding goes to the nearest double, and a tie to
the one with the even significand.
-/

namespace TemporalNetwork

/-- The finite double `(-1)^negative * significand * 2^exponent`, an infinity, or no number.
Every function below yields finite doubles with `significand < 2^53` and `-1074 ≤ exponent`, and
with `2^52 ≤ significand` unless the exponent is `-1074`; so a double has one form. -/
inductive Double where
  | nan
  | infinite (negative : Bool)
  | finite (negative : Bool) (significand : Nat) (exponent : Int)
  deriving DecidableEq, Repr, Inhabited

namespace Double

def zero (negative : Bool) : Double := .finite negative 0 (-1074)

def nearest (numerator denominator : Nat) : Nat :=
  let quotient := numerator / denominator
  let rest := 2 * (numerator % denominator)
  if rest < denominator then quotient
  else if denominator < rest then quotient + 1
  else quotient + quotient % 2

def powerAtMost (power : Int) (numerator denominator : Nat) : Bool :=
  if 0 ≤ power then denominator <<< power.toNat ≤ numerator
  else denominator ≤ numerator <<< (-power).toNat

def binade (numerator denominator : Nat) : Int :=
  let guess : Int := (numerator.log2 : Int) - denominator.log2
  if powerAtMost guess numerator denominator then guess else guess - 1

/-- A rounded significand on the grid of `2^exponent`. A carry to `2^53` moves to the next binade;
a value above the greatest double is infinite. -/
def pack (negative : Bool) (significand : Nat) (exponent : Int) : Double :=
  let carried := significand = 1 <<< 53
  let exponent := if carried then exponent + 1 else exponent
  if 971 < exponent then .infinite negative
  else .finite negative (if carried then 1 <<< 52 else significand) exponent

def ofRatio (negative : Bool) (numerator denominator : Nat) : Double :=
  if numerator = 0 then zero negative
  else
    let exponent := max (binade numerator denominator - 52) (-1074)
    let significand :=
      if 0 ≤ exponent then nearest numerator (denominator <<< exponent.toNat)
      else nearest (numerator <<< (-exponent).toNat) denominator
    pack negative significand exponent

def ofInt (n : Int) : Double := ofRatio (n < 0) n.natAbs 1

/-- The double nearest to `digits * 10^exponent`. Far outside the range of doubles no power is
formed. -/
def ofScientific (negative : Bool) (digits : Nat) (exponent : Int) : Double :=
  let magnitude : Int := exponent + digits.log2 / 3
  if digits = 0 then zero negative
  else if 400 < exponent then .infinite negative
  else if magnitude < -400 then zero negative
  else if 0 ≤ exponent then ofRatio negative (digits * Nat.pow 10 exponent.toNat) 1
  else ofRatio negative digits (Nat.pow 10 (-exponent).toNat)

def parts? : Double → Option (Int × Int)
  | .finite negative significand exponent =>
      some (if negative then -(significand : Int) else significand, exponent)
  | _ => none

def isNegative : Double → Bool
  | .nan => false
  | .infinite negative => negative
  | .finite negative significand _ => negative && significand != 0

def isZero : Double → Bool
  | .finite _ significand _ => significand == 0
  | _ => false

def toInt? (x : Double) : Option Int :=
  match x.parts? with
  | none => none
  | some (significand, exponent) =>
    if 0 ≤ exponent then some (significand <<< exponent.toNat)
    else
      let unit : Int := 1 <<< (-exponent).toNat
      if significand % unit = 0 then some (significand / unit) else none

def succ : Double → Double
  | .finite negative significand exponent =>
    let signed : Int := if negative then -(significand : Int) else significand
    if 0 ≤ exponent then
      let total := signed <<< exponent.toNat + 1
      ofRatio (total < 0) total.natAbs 1
    else
      let unit : Nat := 1 <<< (-exponent).toNat
      let total := signed + (unit : Int)
      ofRatio (total < 0) total.natAbs unit
  | x => x

def sameNumber (x y : Double) : Bool :=
  match x, y with
  | .nan, _ => false
  | x, y => x == y || (x.isZero && y.isZero)

end Double

end TemporalNetwork
