import TemporalNetwork.Decimal
import TemporalNetwork.Text.Quoted

/-!
Encodings with one byte for a character, which is its code point: ASCII, and Latin-1 with twice as
many characters. A fault spans the characters side by side that have no byte.
-/

namespace TemporalNetwork.Narrow

inductive Encoding where
  | ascii | latin
  deriving DecidableEq, Repr

def Encoding.name : Encoding → String
  | .ascii => "ascii"
  | .latin => "latin-1"

def Encoding.size : Encoding → Nat
  | .ascii => 128
  | .latin => 256

/-- The first character that has no byte, and the places of the first and the last one. -/
structure Error where
  encoding : Encoding
  char : Char
  first : Nat
  last : Nat
  deriving DecidableEq, Repr

def Error.message (error : Error) : String :=
  "'" ++ error.encoding.name ++ "' codec can't encode character" ++
    (if error.first = error.last then
      " '" ++ String.ofList (Text.escapeCode error.char.toNat) ++ "' in position " ++
        Decimal.ofNat error.first
    else "s in position " ++ Decimal.ofNat error.first ++ "-" ++ Decimal.ofNat error.last) ++
    ": ordinal not in range(" ++ Decimal.ofNat error.encoding.size ++ ")"

def Encoding.holds (encoding : Encoding) (c : Char) : Bool := c.toNat < encoding.size

def encode (encoding : Encoding) (cs : List Char) : Except Error (List UInt8) :=
  match cs.dropWhile encoding.holds with
  | [] => .ok (cs.map fun c => UInt8.ofNat c.toNat)
  | c :: rest =>
    let first := cs.length - (rest.length + 1)
    let more := rest.takeWhile fun c => !encoding.holds c
    .error { encoding, char := c, first, last := first + more.length }

theorem encode_of_holds (encoding : Encoding) (cs : List Char)
    (all : ∀ c ∈ cs, encoding.holds c = true) :
    encode encoding cs = .ok (cs.map fun c => UInt8.ofNat c.toNat) := by
  have none : cs.dropWhile encoding.holds = [] := by
    induction cs with
    | nil => rfl
    | cons c rest ih =>
      rw [List.dropWhile_cons_of_pos (all c List.mem_cons_self)]
      exact ih fun c member => all c (List.mem_cons_of_mem _ member)
  simp [encode, none]

end TemporalNetwork.Narrow
