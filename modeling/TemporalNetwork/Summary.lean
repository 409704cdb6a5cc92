import TemporalNetwork.Json.Printer

/-!
What a generation did to a graph, and the report of it.
-/

namespace TemporalNetwork

structure Summary where
  generator : String
  nodesRequested : Int
  nodesAdded : Int
  edgesAdded : Int
  draws : Int
  seeded : Bool
  latestTime : Option Int
  deriving DecidableEq, Repr

namespace Summary

def fields (summary : Summary) : List (Text × Json) := [
  ("generator", .string summary.generator),
  ("nodes_requested", .int summary.nodesRequested),
  ("nodes_added", .int summary.nodesAdded),
  ("edges_added", .int summary.edgesAdded),
  ("draws", .int summary.draws),
  ("seeded", .bool summary.seeded),
  ("latest_time", match summary.latestTime with
    | none => .null
    | some t => .int t)]

def toJson (summary : Summary) : Json := .object summary.fields

def report (summary : Summary) : String := summary.toJson.toText .report

end Summary

end TemporalNetwork
