import TemporalNetwork.Encoding.Utf8
import TemporalNetwork.GraphFile
import TemporalNetwork.Json.Conversion

/-!
The text of a graph's document. The type of a node is left out when it has none. Of a document with
a type or a number that JSON cannot hold the text up to there is written.
-/

namespace TemporalNetwork.GraphFile

def NodeEntry.toValue (entry : NodeEntry) : Value :=
  let place := [(.text "id", entry.id), (.text "time", entry.time)]
  .dict (match entry.type with
    | .none => place
    | type => place ++ [(.text "type", type)])

def EdgeEntry.toValue (entry : EdgeEntry) : Value :=
  .dict [(.text "source", entry.source), (.text "target", entry.target),
    (.text "time", entry.time)]

def Document.toValue (document : Document) : Value :=
  .dict [(.text "nodes", .list (document.nodes.map NodeEntry.toValue)),
    (.text "edges", .list (document.edges.map EdgeEntry.toValue))]

/-- What was written, and what ended the writing before its time. -/
structure Written where
  text : List Char
  fault : Option Json.Unwritable

def Document.write (document : Document) : Written :=
  match Json.ofValue document.toValue with
  | .ok json => { text := json.render .file 0, fault := none }
  | .error (cause, broken) => { text := broken.render .file 0, fault := some cause }

def Written.bytes (written : Written) : List UInt8 := Utf8.encode written.text

end TemporalNetwork.GraphFile
