import TemporalNetwork.Coercion.Field
import TemporalNetwork.Coercion.Number
import TemporalNetwork.Summary

/-!
A summary read from fields of any kind. The generator and the number of nodes asked for have to be
there.
-/

namespace TemporalNetwork.Summary

def wholeOrNone : Value → Except Coercion.Fault (Option Int)
  | .none => .ok none
  | value => (Coercion.whole value).map some

def ofFields (fields : Fields) : Checked Summary :=
  let generator := fields.required "generator" Coercion.text
  let nodesRequested := fields.required "nodes_requested" Coercion.whole
  let nodesAdded := fields.optional "nodes_added" 0 Coercion.whole
  let edgesAdded := fields.optional "edges_added" 0 Coercion.whole
  let draws := fields.optional "draws" 0 Coercion.whole
  let seeded := fields.optional "seeded" false Coercion.truth
  let latestTime := fields.optional "latest_time" none wholeOrNone
  (generator.and (nodesRequested.and (nodesAdded.and (edgesAdded.and
    (draws.and (seeded.and latestTime)))))).map
    fun (generator, nodesRequested, nodesAdded, edgesAdded, draws, seeded, latestTime) =>
      { generator, nodesRequested, nodesAdded, edgesAdded, draws, seeded, latestTime }

end TemporalNetwork.Summary
