import TemporalNetwork.Decimal
import TemporalNetwork.Double.Shortest
import TemporalNetwork.Text.Quoted
import TemporalNetwork.Value

/-!
The text of a value in messages: `display` quotes texts at every depth, `plain` shows a text at the
top as it is. A value with too long a number `fits` in no message.
-/

namespace TemporalNetwork.Value

/-- Floats have a point or an exponent; the exponent has a sign and two digits, and is used below
`0.0001` and from `10^16` on. -/
def floatLayout : Double.Layout where
  leastPoint := -3
  greatestPoint := 16
  exponentWidth := 2
  nanWord := "nan"
  infinityWord := "inf"

def boolWord (truth : Bool) : String := if truth then "True" else "False"

mutual

def display : Value → String
  | .none => "None"
  | .bool truth => boolWord truth
  | .int n => Decimal.ofInt n
  | .float x => floatLayout.render x
  | .text t => t.quoted
  | .bytes content => Text.quotedBytes content
  | .buffer content => "bytearray(" ++ Text.quotedBuffer content ++ ")"
  | .list items => "[" ++ String.intercalate ", " (displayItems items) ++ "]"
  | .tuple [item] => "(" ++ display item ++ ",)"
  | .tuple items => "(" ++ String.intercalate ", " (displayItems items) ++ ")"
  | .dict entries => "\x7b" ++ String.intercalate ", " (displayEntries entries) ++ "\x7d"
  | .object traits _ => traits.display

def displayItems : List Value → List String
  | [] => []
  | item :: rest => display item :: displayItems rest

def displayEntries : List (Value × Value) → List String
  | [] => []
  | (key, item) :: rest => (display key ++ ": " ++ display item) :: displayEntries rest

end

def plain : Value → String
  | .text t => t.shown
  | .object traits _ => traits.plain
  | value => display value

mutual

def fits : Value → Bool
  | .int n => Decimal.fits n
  | .list items => allFit items
  | .tuple items => allFit items
  | .dict entries => entriesFit entries
  | _ => true

def allFit : List Value → Bool
  | [] => true
  | item :: rest => fits item && allFit rest

def entriesFit : List (Value × Value) → Bool
  | [] => true
  | (key, item) :: rest => fits key && fits item && entriesFit rest

end

end TemporalNetwork.Value
