import TemporalNetwork.Coercion
import TemporalNetwork.Double.Reading
import TemporalNetwork.Text.Blank

/-!
Reading whole numbers and doubles. The text of a double may have blanks around it, or single
underscores between its characters; the text of a whole number may have both, and leading zeros, a
plus sign, and a fraction of zeros besides.
-/

namespace TemporalNetwork.Coercion

/-- The text without its underscores, each of which has to stand alone between two characters. -/
def joinUnderscores? (cs : List Char) : Option (List Char) :=
  if cs.head? = some '_' || cs.getLast? = some '_' || (cs.zip cs.tail).contains ('_', '_') then
    none
  else some (cs.filter (· != '_'))

/-! ## Whole numbers -/

/-- Drops a plus sign, after which no second sign may stand. -/
def dropPlus? : List Char → Option (List Char)
  | '+' :: '-' :: _ => none
  | '+' :: rest => some rest
  | cs => some cs

def skipZeros? (last : Char) : List Char → Option (List Char)
  | [] => some [last]
  | c :: rest =>
    if c = '0' || c = '_' then skipZeros? c rest
    else if c.isDigit || c = '-' then some (c :: rest)
    else if c = '.' then some (last :: c :: rest)
    else none

def dropZeros? : List Char → Option (List Char)
  | '0' :: rest => skipZeros? '0' rest
  | c :: rest => if c.isDigit then some (c :: rest) else none
  | [] => none

def dropSignedZeros? : List Char → Option (List Char)
  | '-' :: rest => (dropZeros? rest).map ('-' :: ·)
  | cs => dropZeros? cs

def dropFraction (cs : List Char) : List Char :=
  match cs.dropWhile (· != '.') with
  | '.' :: '0' :: rest => if rest.all (· == '0') then cs.takeWhile (· != '.') else cs
  | _ => cs

def bareWhole? (cs : List Char) : Option (List Char) :=
  (dropPlus? (Text.trim cs)).bind fun unsigned =>
    (dropSignedZeros? unsigned).bind fun counting => joinUnderscores? (dropFraction counting)

def digitsOnly? (cs : List Char) : Option Int :=
  match cs with
  | ['0'] => some 0
  | '0' :: _ => none
  | [] => none
  | cs => if cs.all Char.isDigit then some (Decimal.value cs) else none

def signedDigits? : List Char → Option Int
  | '-' :: rest => (digitsOnly? rest).map (-·)
  | cs => digitsOnly? cs

def leadingDigits : List Char → List Char
  | '-' :: rest => wholeDigits rest
  | cs => wholeDigits cs
where
  wholeDigits : List Char → List Char
    | '0' :: _ => ['0']
    | cs => cs.takeWhile Char.isDigit

def startsTooLong (cs : List Char) : Bool := Decimal.mostDigits < (leadingDigits cs).length

/-- A text is measured as it is: one that begins with too long a number has a fault of its own. -/
def wholeOfChars (cs : List Char) : Except Fault Int :=
  if startsTooLong cs then .error .wholeSize
  else
    match (signedDigits? cs).or ((bareWhole? cs).bind fun bare =>
        if startsTooLong bare then none else signedDigits? bare) with
    | some n => .ok n
    | none => .error .wholeFormat

def wholeOfDouble (x : Double) : Except Fault Int :=
  match x.toInt? with
  | some n => if fitsWord n then .ok n else .error .wholeSize
  | none =>
    match x with
    | .finite .. => .error .fractional
    | _ => .error .notFinite

def whole (value : Value) : Except Fault Int :=
  match value with
  | .bool truth => .ok (if truth then 1 else 0)
  | .int n => .ok n
  | .float x => wholeOfDouble x
  | .text (.whole s) => wholeOfChars s.toList
  | .text (.broken ..) => .error .textEncoding
  | .bytes _ =>
    match characters? value with
    | some cs => wholeOfChars cs
    | none => .error .wholeFormat
  | .object traits _ =>
    match traits.converted?.map Double.ofInt with
    | some (.finite negative significand exponent) =>
      wholeOfDouble (.finite negative significand exponent)
    | _ => .error .notWhole
  | _ => .error .notWhole

def count (value : Value) : Except Fault Nat :=
  match whole value with
  | .error fault => .error fault
  | .ok n => if n < 0 then .error .negative else .ok n.toNat

/-! ## Doubles -/

/-- Blanks are taken away only where there are no underscores. -/
def numberOfChars (cs : List Char) : Except Fault Double :=
  match (Double.ofChars? (Text.trim cs)).or ((joinUnderscores? cs).bind Double.ofChars?) with
  | some x => .ok x
  | none => .error .numberFormat

def numberOfInt (n : Int) : Except Fault Double :=
  match Double.ofInt n with
  | .infinite _ => .error .notNumber
  | x => .ok x

def number (value : Value) : Except Fault Double :=
  match value with
  | .bool truth => numberOfInt (if truth then 1 else 0)
  | .int n => numberOfInt n
  | .float x => .ok x
  | .text (.whole s) => numberOfChars s.toList
  | .text (.broken ..) => .error .textEncoding
  | .bytes _ =>
    match characters? value with
    | some cs => numberOfChars cs
    | none => .error .numberFormat
  | .object traits _ =>
    match traits.converted? with
    | some n => numberOfInt n
    | none => .error .notNumber
  | _ => .error .notNumber

end TemporalNetwork.Coercion
