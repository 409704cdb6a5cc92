import TemporalNetwork.Decimal
import TemporalNetwork.Double

/-!
Reading a decimal number: digits with an optional point and exponent, or one of the words for
infinity and for no number, each after an optional sign.
-/

namespace TemporalNetwork.Double

def spanDigits (cs : List Char) : List Char × List Char :=
  (cs.takeWhile Char.isDigit, cs.dropWhile Char.isDigit)

def spanSign : List Char → Bool × List Char
  | '-' :: rest => (true, rest)
  | '+' :: rest => (false, rest)
  | cs => (false, cs)

def exponentPart? : List Char → Option Int
  | [] => some 0
  | mark :: rest =>
    if mark = 'e' || mark = 'E' then
      let (negative, digits) := spanSign rest
      if digits.isEmpty || !digits.all Char.isDigit then none
      else
        let size : Int := Decimal.value digits
        some (if negative then -size else size)
    else none

def ofDigits (negative : Bool) (whole fraction : List Char) (exponent : Int) : Double :=
  ofScientific negative (Decimal.value (whole ++ fraction)) (exponent - fraction.length)

def unsigned? (negative : Bool) (cs : List Char) : Option Double :=
  let (whole, rest) := spanDigits cs
  let (fraction, rest) := match rest with
    | '.' :: more => spanDigits more
    | _ => ([], rest)
  if whole.isEmpty && fraction.isEmpty then none
  else (exponentPart? rest).map (ofDigits negative whole fraction)

/-- Reads the whole text; the words are read in any case. -/
def ofChars? (cs : List Char) : Option Double :=
  let (negative, body) := spanSign cs
  let word := String.ofList (body.map Char.toLower)
  if word = "inf" || word = "infinity" then some (.infinite negative)
  else if word = "nan" then some .nan
  else unsigned? negative body

end TemporalNetwork.Double
