import TemporalNetwork.Double.Reading
import TemporalNetwork.Text.Blank
import TemporalNetwork.Text.Digit

/-!
Numbers on the command line: digits of any script, with blanks around them, and with single
underscores between digits.
-/

namespace TemporalNetwork.CommandLine

def plainDigit (c : Char) : Char :=
  match Text.digitValue? c with
  | some worth => Decimal.digitChar worth
  | none => c

/-- Takes out underscores, each of which has to stand between two digits; `before` is the character
in front. -/
def dropUnderscores? (before : Char) : List Char → Option (List Char)
  | [] => if before = '_' then none else some []
  | c :: rest =>
    if c = '_' then if before.isDigit then dropUnderscores? c rest else none
    else if before = '_' && !c.isDigit then none
    else (dropUnderscores? c rest).map (c :: ·)

def plainNumber? (s : String) : Option (List Char) :=
  dropUnderscores? ' ' (Text.trim (s.toList.map plainDigit))

def readWhole? (s : String) : Option Int :=
  (plainNumber? s).bind fun cs =>
    let (negative, digits) := Double.spanSign cs
    if digits.isEmpty || !digits.all Char.isDigit || Decimal.mostDigits < digits.length then none
    else
      let size : Int := Decimal.value digits
      some (if negative then -size else size)

def readDouble? (s : String) : Option Double := (plainNumber? s).bind Double.ofChars?

end TemporalNetwork.CommandLine
