import TemporalNetwork.Decimal
import TemporalNetwork.Double

/-!
The shortest decimal that reads back as a given double, and of the shortest the nearest. A double
is the nearest one to every point of an interval around it, ends included when its significand is
even; for one digit, two digits and so on, the two neighbours of the double on that decimal grid
are tried against the interval.
-/

namespace TemporalNetwork.Double

/-- Four times a double and the ends of its rounding interval, in units of `2^(exponent - 2)`. -/
structure Interval where
  low : Nat
  middle : Nat
  high : Nat
  closed : Bool

/-- The gap below a power of two is half as wide as the gap above it. -/
def interval (significand : Nat) (exponent : Int) : Interval :=
  { low := 4 * significand - (if significand = 1 <<< 52 && -1074 < exponent then 1 else 2)
    middle := 4 * significand
    high := 4 * significand + 2
    closed := significand % 2 = 0 }

def compareDecimal (digits : Nat) (power : Int) (multiple : Nat) (exponent : Int) : Ordering :=
  let left := (digits * Nat.pow 10 power.toNat) <<< (-exponent).toNat
  let right := (multiple * Nat.pow 10 (-power).toNat) <<< exponent.toNat
  compare left right

def Interval.contains (range : Interval) (exponent : Int) (digits : Nat) (power : Int) : Bool :=
  match compareDecimal digits power range.low exponent,
      compareDecimal digits power range.high exponent with
  | .gt, .lt => true
  | .eq, _ => range.closed
  | _, .eq => range.closed
  | _, _ => false

def gridFloor (multiple : Nat) (exponent power : Int) : Nat :=
  (multiple * Nat.pow 10 (-power).toNat) <<< exponent.toNat /
    Nat.pow 10 power.toNat <<< (-exponent).toNat

def nearerNeighbour (range : Interval) (exponent : Int) (below : Nat) (power : Int) : Nat :=
  match compareDecimal (2 * below + 1) power (2 * range.middle) exponent with
  | .lt => below + 1
  | .gt => below
  | .eq => below + below % 2

def gridPoint? (range : Interval) (exponent power : Int) : Option Nat :=
  let below := gridFloor range.middle exponent power
  match range.contains exponent below power, range.contains exponent (below + 1) power with
  | true, true => some (nearerNeighbour range exponent below power)
  | true, false => some below
  | false, true => some (below + 1)
  | false, false => none

def firstGridPoint (range : Interval) (exponent : Int) : Nat → Int → Nat × Int
  | 0, power => (gridFloor range.middle exponent power, power)
  | tries + 1, power =>
    match gridPoint? range exponent power with
    | some digits => (digits, power)
    | none => firstGridPoint range exponent tries (power - 1)

/-- The decimal exponent of a positive double: `10^k ≤ x < 10^(k + 1)`, from an estimate that is
never too great and corrected upwards. -/
def decimalExponent (significand : Nat) (exponent : Int) : Int :=
  let estimate : Int := ((significand.log2 : Int) + exponent) * 30103 / 100000 - 1
  (List.range 3).foldl (fun power _ =>
    match compareDecimal 1 (power + 1) significand exponent with
    | .gt => power
    | _ => power + 1) estimate

def shortest (significand : Nat) (exponent : Int) : Nat × Int :=
  firstGridPoint (interval significand exponent) (exponent - 2) 17
    (decimalExponent significand exponent)

/-- How a number is laid out: from which to which place of the decimal point it is written
without an exponent, how many digits an exponent has at least, and the words for what is no
decimal. -/
structure Layout where
  leastPoint : Int
  greatestPoint : Int
  exponentWidth : Nat
  nanWord : String
  infinityWord : String

def padded (width n : Nat) : List Char :=
  let ds := Decimal.digits n
  List.replicate (width - ds.length) '0' ++ ds

def Layout.positive (layout : Layout) (ds : List Char) (point : Int) : List Char :=
  if layout.leastPoint ≤ point && point ≤ layout.greatestPoint then
    if point ≤ 0 then '0' :: '.' :: List.replicate (-point).toNat '0' ++ ds
    else if (ds.length : Int) ≤ point then
      ds ++ List.replicate (point.toNat - ds.length) '0' ++ ['.', '0']
    else ds.take point.toNat ++ '.' :: ds.drop point.toNat
  else
    let mantissa := match ds with
      | lead :: [] => [lead]
      | lead :: rest => lead :: '.' :: rest
      | [] => []
    let exponent := point - 1
    mantissa ++ 'e' :: (if exponent < 0 then '-' else '+') ::
      padded layout.exponentWidth exponent.natAbs

def Layout.render (layout : Layout) : Double → String
  | .nan => layout.nanWord
  | .infinite negative => (if negative then "-" else "") ++ layout.infinityWord
  | .finite negative 0 _ => if negative then "-0.0" else "0.0"
  | .finite negative significand exponent =>
    let (number, power) := shortest significand exponent
    let written := Decimal.digits number
    let kept := (written.reverse.dropWhile (· == '0')).reverse
    let text := layout.positive kept (power + written.length)
    String.ofList (if negative then '-' :: text else text)

end TemporalNetwork.Double
