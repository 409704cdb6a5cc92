import TemporalNetwork.Decimal
import TemporalNetwork.Double.Reading
import TemporalNetwork.Json
import TemporalNetwork.Text.Digit

/-!
Reading JSON. Beside the standard the words `NaN`, `Infinity` and `-Infinity` are numbers, the last
of several fields of one name counts, and half of a surrogate pair may stand alone. Whole numbers
are limited in length, and values may be nested `nestingLimit` deep.

Every function returns what it has not read, so a place in the text is given by the number of
characters that are left there.
-/

namespace TemporalNetwork.Json

inductive Fault where
  | value
  | propertyName
  | colon
  | comma
  | extraData
  | unterminatedString
  | controlCharacter
  | escape
  | unicodeEscape
  | byteOrderMark
  deriving DecidableEq, Repr

def Fault.message : Fault → String
  | .value => "Expecting value"
  | .propertyName => "Expecting property name enclosed in double quotes"
  | .colon => "Expecting ':' delimiter"
  | .comma => "Expecting ',' delimiter"
  | .extraData => "Extra data"
  | .unterminatedString => "Unterminated string starting at"
  | .controlCharacter => "Invalid control character at"
  | .escape => "Invalid \\escape"
  | .unicodeEscape => "Invalid \\uXXXX escape"
  | .byteOrderMark => "Unexpected UTF-8 BOM (decode using utf-8-sig)"

/-- A fault with the number of characters from it to the end, a whole number with too many digits,
or an array or object nested too deep. -/
inductive Error where
  | malformed (fault : Fault) (left : Nat)
  | tooManyDigits (count : Nat)
  | tooDeep (container : String)
  deriving DecidableEq, Repr

def nestingLimit : Nat := 990

def fail (fault : Fault) (rest : List Char) : Except Error α :=
  .error (.malformed fault rest.length)

def isSpace (c : Char) : Bool := c = ' ' || c = '\n' || c = '\t' || c = '\r'

def skip (cs : List Char) : List Char := cs.dropWhile isSpace

/-! ## Strings -/

def quad? : List Char → Option Nat
  | a :: b :: c :: d :: _ => do
    let a ← Text.hexDigit? a
    let b ← Text.hexDigit? b
    let c ← Text.hexDigit? c
    let d ← Text.hexDigit? d
    some (((a * 16 + b) * 16 + c) * 16 + d)
  | _ => none

def isHighSurrogate (unit : Nat) : Bool := 0xd800 ≤ unit && unit < 0xdc00

def isLowSurrogate (unit : Nat) : Bool := 0xdc00 ≤ unit && unit < 0xe000

def joinSurrogates (high low : Nat) : Char :=
  Char.ofNat (0x10000 + (high - 0xd800) * 0x400 + (low - 0xdc00))

/-- The point after `\u`, and how many characters of the text it takes. A text has to go on after the
digits. -/
def readUnicode (cs : List Char) : Except Error (Point × Nat) :=
  if cs.length < 5 then .error (.malformed .unicodeEscape (cs.length + 1))
  else
    match quad? cs with
    | none => .error (.malformed .unicodeEscape (cs.length + 1))
    | some unit =>
      let rest := cs.drop 4
      if isHighSurrogate unit && 7 ≤ rest.length && rest.take 2 = ['\\', 'u'] then
        match quad? (rest.drop 2) with
        | none => .error (.malformed .unicodeEscape (rest.length - 1))
        | some second =>
          if isLowSurrogate second then .ok (.char (joinSurrogates unit second), 10)
          else .ok (.ofUnit unit, 4)
      else .ok (.ofUnit unit, 4)

def simpleEscape? : Char → Option Char
  | '"' => some '"'
  | '\\' => some '\\'
  | '/' => some '/'
  | 'b' => some (Char.ofNat 8)
  | 'f' => some (Char.ofNat 12)
  | 'n' => some '\n'
  | 'r' => some '\r'
  | 't' => some '\t'
  | _ => none

/-- Reads on from inside a string to after its closing quote. `opened` is the number of characters
from the opening quote to the end of the text, `read` what was read before, the last first. -/
def readString (opened : Nat) (read : List Point) (cs : List Char) :
    Except Error (Text × List Char) :=
  match cs with
  | [] => .error (.malformed .unterminatedString opened)
  | '"' :: rest => .ok (.ofPoints read.reverse, rest)
  | '\\' :: [] => .error (.malformed .unterminatedString opened)
  | '\\' :: 'u' :: rest =>
    match readUnicode rest with
    | .error error => .error error
    | .ok (point, taken) => readString opened (point :: read) (rest.drop taken)
  | '\\' :: c :: rest =>
    match simpleEscape? c with
    | some meant => readString opened (.char meant :: read) rest
    | none => fail .escape cs
  | c :: rest =>
    if c.toNat < 0x20 then fail .controlCharacter cs else readString opened (.char c :: read) rest
termination_by cs.length
decreasing_by all_goals simp only [List.length_cons, List.length_drop] <;> omega

/-! ## Numbers -/

def exponent? : List Char → Option (Bool × List Char × List Char)
  | mark :: rest =>
    if mark = 'e' || mark = 'E' then
      let (negative, body) := Double.spanSign rest
      let (digits, rest) := Double.spanDigits body
      if digits.isEmpty then none else some (negative, digits, rest)
    else none
  | [] => none

def fraction : List Char → List Char × List Char
  | '.' :: c :: rest => if c.isDigit then Double.spanDigits (c :: rest) else ([], '.' :: c :: rest)
  | cs => ([], cs)

def wholeDigits : List Char → List Char × List Char
  | '0' :: rest => (['0'], rest)
  | cs => Double.spanDigits cs

def readNumber (cs : List Char) : Except Error (Json × List Char) :=
  let (negative, body) := match cs with
    | '-' :: rest => (true, rest)
    | _ => (false, cs)
  let (whole, rest) := wholeDigits body
  if whole.isEmpty then fail .value cs
  else
    let (decimals, rest) := fraction rest
    match exponent? rest with
    | some (minus, digits, rest) =>
      let size : Int := Decimal.value digits
      .ok (.float (Double.ofDigits negative whole decimals (if minus then -size else size)), rest)
    | none =>
      if decimals.isEmpty then
        if Decimal.mostDigits < whole.length then .error (.tooManyDigits whole.length)
        else
          let size : Int := Decimal.value whole
          .ok (.int (if negative then -size else size), rest)
      else .ok (.float (Double.ofDigits negative whole decimals 0), rest)

/-! ## Values -/

def constants : List (List Char × Json) := [
  ("null".toList, .null), ("true".toList, .bool true), ("false".toList, .bool false),
  ("NaN".toList, .float .nan), ("Infinity".toList, .float (.infinite false)),
  ("-Infinity".toList, .float (.infinite true))]

def readPlain (cs : List Char) : Except Error (Json × List Char) :=
  match constants.find? fun constant => constant.1.isPrefixOf cs with
  | some (word, value) => .ok (value, cs.drop word.length)
  | none => readNumber cs

mutual

/-- Reads one value. `steps` bounds the calls and `depth` the nesting. -/
def readValue (steps depth : Nat) (cs : List Char) : Except Error (Json × List Char) :=
  match steps with
  | 0 => fail .value cs
  | steps + 1 =>
    match cs with
    | '"' :: rest => (readString cs.length [] rest).map fun (t, rest) => (.string t, rest)
    | '[' :: rest =>
      match depth with
      | 0 => .error (.tooDeep "array")
      | depth + 1 =>
        match skip rest with
        | ']' :: rest => .ok (.array [], rest)
        | rest => readItems steps depth [] rest
    | '\x7b' :: rest =>
      match depth with
      | 0 => .error (.tooDeep "object")
      | depth + 1 =>
        match skip rest with
        | '\x7d' :: rest => .ok (.object [], rest)
        | rest => readFields steps depth [] rest
    | cs => readPlain cs

def readItems (steps depth : Nat) (read : List Json) (cs : List Char) :
    Except Error (Json × List Char) :=
  match steps with
  | 0 => fail .value cs
  | steps + 1 =>
    match readValue steps depth cs with
    | .error error => .error error
    | .ok (item, rest) =>
      match skip rest with
      | ']' :: rest => .ok (.array (item :: read).reverse, rest)
      | ',' :: rest => readItems steps depth (item :: read) (skip rest)
      | rest => fail .comma rest

def readFields (steps depth : Nat) (read : List (Text × Json)) (cs : List Char) :
    Except Error (Json × List Char) :=
  match steps with
  | 0 => fail .value cs
  | steps + 1 =>
    match cs with
    | '"' :: rest =>
      match readString cs.length [] rest with
      | .error error => .error error
      | .ok (name, rest) =>
        match skip rest with
        | ':' :: rest =>
          match readValue steps depth (skip rest) with
          | .error error => .error error
          | .ok (value, rest) =>
            let fields := setField read name value
            match skip rest with
            | '\x7d' :: rest => .ok (.object fields, rest)
            | ',' :: rest => readFields steps depth fields (skip rest)
            | rest => fail .comma rest
        | rest => fail .colon rest
    | rest => fail .propertyName rest

end

/-- Reads a whole text. Each value takes at most two calls for a character of its own. -/
def parse (cs : List Char) : Except Error Json :=
  match cs with
  | '\ufeff' :: _ => fail .byteOrderMark cs
  | _ =>
    match readValue (2 * cs.length + 2) nestingLimit (skip cs) with
    | .error error => .error error
    | .ok (value, rest) =>
      match skip rest with
      | [] => .ok value
      | rest => fail .extraData rest

/-! ## Messages -/

def lineColumn (before : List Char) : Nat × Nat :=
  (before.count '\n' + 1, (before.reverse.takeWhile (· != '\n')).length + 1)

def Error.message (text : List Char) : Error → String
  | .malformed fault left =>
    let position := text.length - left
    let (line, column) := lineColumn (text.take position)
    fault.message ++ ": line " ++ Decimal.ofNat line ++ " column " ++ Decimal.ofNat column ++
      " (char " ++ Decimal.ofNat position ++ ")"
  | .tooManyDigits count => Decimal.tooManyMessage count
  | .tooDeep container =>
    "maximum recursion depth exceeded while decoding a JSON " ++ container ++
      " from a unicode string"

end TemporalNetwork.Json
