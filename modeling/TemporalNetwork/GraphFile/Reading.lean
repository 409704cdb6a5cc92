import TemporalNetwork.Encoding.Utf8
import TemporalNetwork.GraphFile
import TemporalNetwork.Json.Conversion
import TemporalNetwork.Json.Parser
import TemporalNetwork.Workspace.Path

/-!
Reading a graph's document: the file is decoded, parsed, checked entry by entry and replayed. Every
entry is checked before the first one is replayed.
-/

namespace TemporalNetwork.GraphFile

inductive Section where
  | nodes | edges
  deriving DecidableEq, Repr

def Section.field : Section → String
  | .nodes => "nodes"
  | .edges => "edges"

def Section.label (part : Section) (index : Nat) : String :=
  (match part with
  | .nodes => "Node "
  | .edges => "Edge ") ++ Decimal.ofNat index

def Section.keys : Section → List String
  | .nodes => ["id", "time"]
  | .edges => ["source", "target", "time"]

inductive FormatFault where
  | notObject (kind : Value.Kind)
  | notList (part : Section)
  | entryKind (part : Section) (index : Nat) (kind : Value.Kind)
  | missingKeys (part : Section) (index : Nat) (keys : List String)
  deriving DecidableEq, Repr

def FormatFault.message : FormatFault → String
  | .notObject kind => "Expected a JSON object, got " ++ kind.name
  | .notList part => "'" ++ part.field ++ "' must be a list"
  | .entryKind part index kind => part.label index ++ " is not a dict: " ++ kind.name
  | .missingKeys part index keys =>
    part.label index ++ " missing required key(s): " ++ String.intercalate ", " keys

inductive LoadFault where
  | notFound
  | directory
  | encoding (error : Utf8.Error)
  | json (text : List Char) (error : Json.Error)
  | format (fault : FormatFault)
  | refused (fault : UpdateFault)
  deriving Repr

def LoadFault.message (path : String) : LoadFault → String
  | .notFound => "Graph file not found: " ++ path
  | .directory => Workspace.PathFault.message path .directory
  | .encoding error => error.message
  | .json text error => error.message text
  | .format fault => fault.message
  | .refused fault => "Invalid graph file " ++ path ++ ": " ++ fault.message

/-! ## Entries -/

/-- The entries of a section; a section that is left out has none. -/
def sectionEntries (fields : List (Text × Json)) (part : Section) :
    Except FormatFault (List Json) :=
  match Json.field? fields part.field with
  | none => .ok []
  | some (.array entries) => .ok entries
  | some _ => .error (.notList part)

def entryFields (part : Section) (index : Nat) : Json → Except FormatFault (List (Text × Json))
  | .object fields =>
    match part.keys.filter fun key : String => (Json.field? fields key).isNone with
    | [] => .ok fields
    | missing => .error (.missingKeys part index missing)
  | entry => .error (.entryKind part index entry.toValue.kind)

def allFields (part : Section) (index : Nat) (read : List (List (Text × Json))) :
    List Json → Except FormatFault (List (List (Text × Json)))
  | [] => .ok read.reverse
  | entry :: rest =>
    match entryFields part index entry with
    | .error fault => .error fault
    | .ok fields => allFields part (index + 1) (fields :: read) rest

def fieldValue (fields : List (Text × Json)) (name : String) : Value :=
  match Json.field? fields name with
  | none => .none
  | some json => json.toValue

def NodeEntry.ofFields (fields : List (Text × Json)) : NodeEntry :=
  { id := fieldValue fields "id", time := fieldValue fields "time"
    type := fieldValue fields "type" }

def EdgeEntry.ofFields (fields : List (Text × Json)) : EdgeEntry :=
  { source := fieldValue fields "source", target := fieldValue fields "target"
    time := fieldValue fields "time" }

def Document.ofFields (fields : List (Text × Json)) : Except FormatFault Document :=
  match sectionEntries fields .nodes, sectionEntries fields .edges with
  | .error fault, _ => .error fault
  | _, .error fault => .error fault
  | .ok nodes, .ok edges =>
    match allFields .nodes 0 [] nodes, allFields .edges 0 [] edges with
    | .error fault, _ => .error fault
    | _, .error fault => .error fault
    | .ok nodes, .ok edges =>
      .ok { nodes := nodes.map NodeEntry.ofFields, edges := edges.map EdgeEntry.ofFields }

def Document.ofJson : Json → Except FormatFault Document
  | .object fields => Document.ofFields fields
  | json => .error (.notObject json.toValue.kind)

/-! ## Files -/

def parse (text : List Char) : Except LoadFault Document :=
  match Json.parse text with
  | .error error => .error (.json text error)
  | .ok json => (Document.ofJson json).mapError .format

def ofBytes (content : List UInt8) : Except LoadFault Store :=
  match Utf8.decode content with
  | .error error => .error (.encoding error)
  | .ok text =>
    match parse (Utf8.universalNewlines text) with
    | .error fault => .error fault
    | .ok document => document.replay.mapError .refused

/-- Loads a file. A path that leads nowhere, for whatever cause, is not found. -/
def load (workspace : Workspace) (path : String) : Except LoadFault Store :=
  match workspace.read path with
  | .error .directory => .error .directory
  | .error _ => .error .notFound
  | .ok content => ofBytes content

end TemporalNetwork.GraphFile
