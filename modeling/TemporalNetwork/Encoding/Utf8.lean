import TemporalNetwork.Decimal
import TemporalNetwork.Text.Digit

/-!
Strict UTF-8. A fault spans the bytes that begin a character which does not go on: from the lead
byte to the last byte that fits.
-/

namespace TemporalNetwork.Utf8

inductive Fault where
  | start
  | continuation
  | truncated
  deriving DecidableEq, Repr

structure Error where
  fault : Fault
  position : Nat
  bytes : List UInt8
  deriving DecidableEq, Repr

def Fault.message : Fault → String
  | .start => "invalid start byte"
  | .continuation => "invalid continuation byte"
  | .truncated => "unexpected end of data"

def Error.message (error : Error) : String :=
  "'utf-8' codec can't decode " ++
    (match error.bytes with
    | [byte] =>
      "byte 0x" ++ String.ofList (Text.hexDigits 2 byte.toNat) ++ " in position " ++
        Decimal.ofNat error.position
    | bytes =>
      "bytes in position " ++ Decimal.ofNat error.position ++ "-" ++
        Decimal.ofNat (error.position + bytes.length - 1)) ++
    ": " ++ error.fault.message

/-- How many bytes follow a lead byte, and between which bounds the first of them lies. The bounds
leave out longer forms of short characters, surrogates, and what is beyond the last plane. -/
def following? (lead : UInt8) : Option (Nat × UInt8 × UInt8) :=
  if lead < 0xc2 then none
  else if lead < 0xe0 then some (1, 0x80, 0xbf)
  else if lead = 0xe0 then some (2, 0xa0, 0xbf)
  else if lead = 0xed then some (2, 0x80, 0x9f)
  else if lead < 0xf0 then some (2, 0x80, 0xbf)
  else if lead = 0xf0 then some (3, 0x90, 0xbf)
  else if lead < 0xf4 then some (3, 0x80, 0xbf)
  else if lead = 0xf4 then some (3, 0x80, 0x8f)
  else none

def continuing : Nat → UInt8 → UInt8 → List UInt8 → List UInt8
  | 0, _, _, _ => []
  | _, _, _, [] => []
  | count + 1, low, high, byte :: rest =>
    if low ≤ byte && byte ≤ high then byte :: continuing count 0x80 0xbf rest else []

def join (lead : UInt8) (count : Nat) (tail : List UInt8) : Char :=
  let top := lead.toNat % (1 <<< (6 - count))
  Char.ofNat (tail.foldl (fun n byte => n * 64 + byte.toNat % 64) top)

def decodeFrom (position : Nat) (read : List Char) (bytes : List UInt8) :
    Except Error (List Char) :=
  match bytes with
  | [] => .ok read.reverse
  | lead :: rest =>
    if lead < 0x80 then decodeFrom (position + 1) (Char.ofNat lead.toNat :: read) rest
    else
      match following? lead with
      | none => .error { fault := .start, position, bytes := [lead] }
      | some (count, low, high) =>
        let tail := continuing count low high rest
        if tail.length = count then
          decodeFrom (position + 1 + count) (join lead count tail :: read) (rest.drop count)
        else
          let fault := if tail.length = rest.length then .truncated else .continuation
          .error { fault, position, bytes := lead :: tail }
termination_by bytes.length
decreasing_by all_goals simp only [List.length_cons, List.length_drop] <;> omega

def decode (bytes : List UInt8) : Except Error (List Char) := decodeFrom 0 [] bytes

/-- Decodes with a mark of its own for each fault; `fuel` bounds the number of faults. -/
def decodeMarking : Nat → List UInt8 → List Char
  | 0, _ => []
  | fuel + 1, bytes =>
    match decode bytes with
    | .ok cs => cs
    | .error error =>
      (decode (bytes.take error.position)).toOption.getD [] ++ Char.ofNat 0xfffd ::
        decodeMarking fuel (bytes.drop (error.position + error.bytes.length))

def decodeLeniently (bytes : List UInt8) : List Char := decodeMarking (bytes.length + 1) bytes

def encodeChar (c : Char) : List UInt8 :=
  let n := c.toNat
  let tail (shift : Nat) : UInt8 := UInt8.ofNat (0x80 + (n >>> shift) % 64)
  if n < 0x80 then [UInt8.ofNat n]
  else if n < 0x800 then [UInt8.ofNat (0xc0 + n / 64), tail 0]
  else if n < 0x10000 then [UInt8.ofNat (0xe0 + n / 4096), tail 6, tail 0]
  else [UInt8.ofNat (0xf0 + n / 262144), tail 12, tail 6, tail 0]

def encode (cs : List Char) : List UInt8 := cs.flatMap encodeChar

/-- Line ends in one form: a return, with or without a line feed after it, is a line feed. `read`
holds the characters before, the last first. -/
def unifyLineEnds (read : List Char) : List Char → List Char
  | [] => read.reverse
  | '\r' :: '\n' :: rest => unifyLineEnds ('\n' :: read) rest
  | c :: rest => unifyLineEnds ((if c = '\r' then '\n' else c) :: read) rest

def universalNewlines (cs : List Char) : List Char := unifyLineEnds [] cs

end TemporalNetwork.Utf8
