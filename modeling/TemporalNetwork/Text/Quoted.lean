import TemporalNetwork.Text
import TemporalNetwork.Text.Digit
import TemporalNetwork.Text.Printable

/-!
Quoted text, as messages show it. A text stands between single quotes, or between double quotes
when it holds a single quote and no double one; the quote in use, the backslash and whatever is
not printable are escaped, halves of pairs among them. These are escaped even where a text is shown
without quotes, as on the error stream.
-/

namespace TemporalNetwork.Text

def quoteFor (cs : List Char) : Char :=
  if cs.contains '\'' && !cs.contains '"' then '"' else '\''

def escapeCode (n : Nat) : List Char :=
  if n < 0x100 then '\\' :: 'x' :: hexDigits 2 n
  else if n < 0x10000 then '\\' :: 'u' :: hexDigits 4 n
  else '\\' :: 'U' :: hexDigits 8 n

def escapeChar (quote : Char) (plain : Char → Bool) (c : Char) : List Char :=
  if c = quote || c = '\\' then ['\\', c]
  else if c = '\n' then ['\\', 'n']
  else if c = '\r' then ['\\', 'r']
  else if c = '\t' then ['\\', 't']
  else if plain c then [c]
  else escapeCode c.toNat

def quotedChars (escaped : Char) (plain : Char → Bool) (cs : List Char) : List Char :=
  quoteFor cs :: cs.flatMap (escapeChar escaped plain) ++ [quoteFor cs]

/-- One point of a text, given how its characters are escaped. -/
def escapePoint (escape : Char → List Char) : Point → List Char
  | .char c => escape c
  | .half h => escapeCode h.code

def quoted (t : Text) : String :=
  let quote := quoteFor (t.points.filterMap Point.char?)
  String.ofList (quote :: t.points.flatMap (escapePoint (escapeChar quote isPrintable)) ++ [quote])

def shown : Text → String
  | .whole s => s
  | t => String.ofList (t.points.flatMap (escapePoint fun c => [c]))

/-! ## Bytes, as quoted ASCII text after a `b` -/

def isPrintableAscii (c : Char) : Bool := 0x20 ≤ c.toNat && c.toNat < 0x7f

def charsOfBytes (bytes : List UInt8) : List Char := bytes.map fun byte => Char.ofNat byte.toNat

def quotedBytes (bytes : List UInt8) : String :=
  let cs := charsOfBytes bytes
  String.ofList ('b' :: quotedChars (quoteFor cs) isPrintableAscii cs)

/-- Bytes that can change: a single quote is escaped between double quotes too. -/
def quotedBuffer (bytes : List UInt8) : String :=
  String.ofList ('b' :: quotedChars '\'' isPrintableAscii (charsOfBytes bytes))

end TemporalNetwork.Text
