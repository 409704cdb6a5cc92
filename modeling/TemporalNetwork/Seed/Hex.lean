import TemporalNetwork.Seed
import TemporalNetwork.Text
import TemporalNetwork.Text.Blank
import TemporalNetwork.Text.Digit

/-!
Bytes as hexadecimal text: pairs of digits in either case, with ASCII blanks before, between and
after the pairs.
-/

namespace TemporalNetwork.Hex

def byteOfDigits (high low : Nat) : UInt8 := UInt8.ofNat (16 * high + low)

def readPairs : List Char → Except (List Char) (List UInt8)
  | [] => .ok []
  | c :: rest =>
    if Text.isAsciiBlank c then readPairs rest
    else
      match Text.hexDigit? c with
      | none => .error (c :: rest)
      | some high =>
        match rest with
        | [] => .error []
        | d :: more =>
          match Text.hexDigit? d with
          | none => .error rest
          | some low => (readPairs more).map (byteOfDigits high low :: ·)

/-- Reads a text, or gives the position of its first fault. A point outside ASCII is the fault
wherever it stands. -/
def decode (t : Text) : Except Nat (List UInt8) :=
  if t.points.all fun point => point.code < 128 then
    let cs := t.points.filterMap Point.char?
    match readPairs cs with
    | .ok bytes => .ok bytes
    | .error left => .error (cs.length - left.length)
  else .error (t.points.takeWhile fun point => point.code < 128).length

def encode (bytes : List UInt8) : String :=
  String.ofList (bytes.flatMap fun byte => Text.hexDigits 2 byte.toNat)

end TemporalNetwork.Hex
