import TemporalNetwork.Encoding.Utf8
import TemporalNetwork.Value

/-!
Reading a field of a fixed type from a value of any kind. What stands for a value of the type is
taken for it: numbers for truth values, words for numbers, bytes for texts.
-/

namespace TemporalNetwork.Coercion

inductive Fault where
  | missing
  | notText
  | textEncoding
  | notWhole
  | wholeFormat
  | fractional
  | wholeSize
  | notFinite
  | negative
  | notNumber
  | numberFormat
  | notTruth
  | truthFormat
  | refused (message : String)
  deriving DecidableEq, Repr

def Fault.code : Fault → String
  | .missing => "missing"
  | .notText => "string_type"
  | .textEncoding => "string_unicode"
  | .notWhole => "int_type"
  | .wholeFormat => "int_parsing"
  | .fractional => "int_from_float"
  | .wholeSize => "int_parsing_size"
  | .notFinite => "finite_number"
  | .negative => "greater_than_equal"
  | .notNumber => "float_type"
  | .numberFormat => "float_parsing"
  | .notTruth => "bool_type"
  | .truthFormat => "bool_parsing"
  | .refused _ => "value_error"

def Fault.message : Fault → String
  | .missing => "Field required"
  | .notText => "Input should be a valid string"
  | .textEncoding =>
    "Input should be a valid string, unable to parse raw data as a unicode string"
  | .notWhole => "Input should be a valid integer"
  | .wholeFormat => "Input should be a valid integer, unable to parse string as an integer"
  | .fractional => "Input should be a valid integer, got a number with a fractional part"
  | .wholeSize => "Unable to parse input string as an integer, exceeded maximum size"
  | .notFinite => "Input should be a finite number"
  | .negative => "Input should be greater than or equal to 0"
  | .notNumber => "Input should be a valid number"
  | .numberFormat => "Input should be a valid number, unable to parse string as a number"
  | .notTruth => "Input should be a valid boolean"
  | .truthFormat => "Input should be a valid boolean, unable to interpret input"
  | .refused message => "Value error, " ++ message

/-! ## Texts -/

def textOfBytes (content : List UInt8) : Except Fault String :=
  match Utf8.decode content with
  | .ok cs => .ok (String.ofList cs)
  | .error _ => .error .textEncoding

/-- A text with half of a pair in it is none that could be encoded. -/
def text : Value → Except Fault String
  | .text (.whole s) => .ok s
  | .text (.broken ..) => .error .textEncoding
  | .bytes content => textOfBytes content
  | .buffer content => textOfBytes content
  | _ => .error .notText

def characters? : Value → Option (List Char)
  | .text (.whole s) => some s.toList
  | .bytes content => (Utf8.decode content).toOption
  | _ => none

/-! ## Truth values -/

def trueWords : List String := ["true", "t", "yes", "y", "on", "1"]

def falseWords : List String := ["false", "f", "no", "n", "off", "0"]

def truthOfWord (cs : List Char) : Except Fault Bool :=
  let word := String.ofList (cs.map Char.toLower)
  if trueWords.contains word then .ok true
  else if falseWords.contains word then .ok false
  else .error .truthFormat

def truthOfInt (n : Int) : Except Fault Bool :=
  if n = 0 then .ok false
  else if n = 1 then .ok true
  else if Int64.minValue.toInt ≤ n ∧ n ≤ Int64.maxValue.toInt then .error .truthFormat
  else .error .notTruth

/-- Whole numbers of doubles are taken between the bounds of a machine word. -/
def fitsWord (n : Int) : Bool := Int64.minValue.toInt < n && n ≤ Int64.maxValue.toInt

def truthOfDouble (x : Double) : Except Fault Bool :=
  match x.toInt? with
  | some n => if fitsWord n then truthOfInt n else .error .notTruth
  | none => .error .notTruth

def truth : Value → Except Fault Bool
  | .bool truth => .ok truth
  | .int n => truthOfInt n
  | .float x => truthOfDouble x
  | .text (.whole s) => truthOfWord s.toList
  | .text (.broken ..) => .error .textEncoding
  | .bytes content =>
    match Utf8.decode content with
    | .ok cs => truthOfWord cs
    | .error _ => .error .truthFormat
  | .object traits _ =>
    match traits.index?, traits.converted? with
    | some n, _ => truthOfInt n
    | none, some n => truthOfDouble (Double.ofInt n)
    | none, none => .error .notTruth
  | _ => .error .notTruth

end TemporalNetwork.Coercion
