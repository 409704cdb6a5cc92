import TemporalNetwork.Decimal
import TemporalNetwork.Double.Shortest
import TemporalNetwork.Json
import TemporalNetwork.Text.Digit

/-!
Writing JSON. A style says how far each level is indented, or that all stands on one line, and
which characters of a string are escaped; names and numbers are written alike in every style, and
halves of pairs are escaped in all of them.
-/

namespace TemporalNetwork.Json

def floatLayout : Double.Layout where
  leastPoint := -3
  greatestPoint := 16
  exponentWidth := 2
  nanWord := "NaN"
  infinityWord := "Infinity"

def unicodeEscape (unit : Nat) : List Char := '\\' :: 'u' :: Text.hexDigits 4 unit

def utf16Units (c : Char) : List Nat :=
  if c.toNat < 0x10000 then [c.toNat]
  else [0xd800 + (c.toNat - 0x10000) / 0x400, 0xdc00 + (c.toNat - 0x10000) % 0x400]

/-- The quote, the backslash and the control characters, five of which have a letter. -/
def escapeControl (c : Char) : List Char :=
  if c = '"' then ['\\', '"']
  else if c = '\\' then ['\\', '\\']
  else if c = '\n' then ['\\', 'n']
  else if c = '\r' then ['\\', 'r']
  else if c = '\t' then ['\\', 't']
  else if c.toNat = 8 then ['\\', 'b']
  else if c.toNat = 12 then ['\\', 'f']
  else if c.toNat < 0x20 then unicodeEscape c.toNat
  else [c]

def escapeNonAscii (c : Char) : List Char :=
  if c.toNat < 0x7f then escapeControl c else (utf16Units c).flatMap unicodeEscape

structure Style where
  indent : Option Nat
  escape : Char → List Char

def Style.file : Style := { indent := some 2, escape := escapeNonAscii }

def Style.report : Style := { indent := some 2, escape := escapeControl }

def Style.line : Style := { indent := none, escape := escapeControl }

def Style.point (style : Style) : Point → List Char
  | .char c => style.escape c
  | .half h => unicodeEscape h.code

def Style.string (style : Style) (t : Text) : List Char :=
  '"' :: t.points.flatMap style.point ++ ['"']

def Style.break (style : Style) (depth : Nat) : List Char :=
  match style.indent with
  | none => []
  | some step => '\n' :: List.replicate (step * depth) ' '

/-- Items between two brackets; without items the brackets touch. -/
def Style.enclose (style : Style) (depth : Nat) (left right : Char) (items : List (List Char)) :
    List Char :=
  if items.isEmpty then [left, right]
  else
    left :: style.break (depth + 1) ++
      List.flatten (items.intersperse (',' :: style.break (depth + 1))) ++
      style.break depth ++ [right]

mutual

def render (style : Style) (depth : Nat) : Json → List Char
  | .null => "null".toList
  | .bool truth => if truth then "true".toList else "false".toList
  | .int n => (Decimal.ofInt n).toList
  | .float x => (floatLayout.render x).toList
  | .string t => style.string t
  | .array items => style.enclose depth '[' ']' (renderItems style (depth + 1) items)
  | .object fields =>
    style.enclose depth '\x7b' '\x7d' (renderFields style (depth + 1) fields)

def renderItems (style : Style) (depth : Nat) : List Json → List (List Char)
  | [] => []
  | item :: rest => render style depth item :: renderItems style depth rest

def renderFields (style : Style) (depth : Nat) : List (Text × Json) → List (List Char)
  | [] => []
  | (name, value) :: rest =>
    (style.string name ++ ':' :: ' ' :: render style depth value) :: renderFields style depth rest

end

def toText (style : Style) (value : Json) : String := String.ofList (render style 0 value)

end TemporalNetwork.Json
