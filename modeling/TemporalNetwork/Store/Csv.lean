import TemporalNetwork.Decimal
import TemporalNetwork.Store.Table
import TemporalNetwork.Text.Quoted

/-!
The edge updates of a store as comma-separated values: a line of column names, and one line for
each row. A field stands between quotes only if it has to, with its own quotes doubled. The lines end
before the first that cannot be written.
-/

namespace TemporalNetwork

namespace Csv

/-- What keeps a line from being written: a number with too many digits, or halves of pairs side by
side, which have no encoding. -/
inductive Fault where
  | digits
  | halves (first : Half) (position count : Nat)
  deriving DecidableEq, Repr

def Fault.message : Fault → String
  | .digits => Decimal.tooLongMessage
  | .halves first position count =>
    "'utf-8' codec can't encode character" ++
      (if count = 1 then
        " '" ++ String.ofList (Text.escapeCode first.code) ++ "' in position " ++
          Decimal.ofNat position
      else
        "s in position " ++ Decimal.ofNat position ++ "-" ++
          Decimal.ofNat (position + count - 1)) ++
      ": surrogates not allowed"

def needsQuotes (t : Text) : Bool :=
  t.points.any fun point => point = .char ',' || point = .char '"' || point = .char '\n'

def field (t : Text) : List Point :=
  if needsQuotes t then
    .char '"' :: t.points.flatMap
      (fun point => if point = .char '"' then [point, point] else [point]) ++ [.char '"']
  else t.points

def line (fields : List Text) : Text :=
  .ofPoints (List.intercalate [.char ','] (fields.map field) ++ [.char '\n'])

def encode : Text → Except Fault String
  | .whole s => .ok s
  | .broken before first after =>
    let more := after.takeWhile fun point => point.char?.isNone
    .error (.halves first before.length (more.length + 1))

def idText : NodeId → Text
  | .int n => Decimal.ofInt n
  | .text t => t

/-- The numbers of a row are put into words before its line is encoded. -/
def rowLine (row : EdgeRow) : Except Fault String :=
  if Decimal.fits row.time && row.source.fits && row.target.fits then
    encode (line [Decimal.ofNat row.time, idText row.source, idText row.target])
  else .error .digits

structure Written where
  text : String
  fault : Option Fault

def writeLines (text : String) : List (Except Fault String) → Written
  | [] => { text, fault := none }
  | .ok line :: rest => writeLines (text ++ line) rest
  | .error fault :: _ => { text, fault := some fault }

end Csv

def Store.edgeCsv (store : Store) : Csv.Written :=
  let names := Csv.encode (Csv.line (store.edgeTable.columns.map .whole))
  Csv.writeLines "" (names :: store.edgeRows.map Csv.rowLine)

end TemporalNetwork
