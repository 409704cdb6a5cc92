import TemporalNetwork.Log
import TemporalNetwork.Store.Update
import TemporalNetwork.Summary

/-!
What a generation logs: each node that was refused, the end of the nodes, and the end of it all.
-/

namespace TemporalNetwork

inductive Event where
  | nodeRefused (id : NodeId) (t : Nat) (refusal : Refusal)
  | nodesAdded (added requested : Nat) (last : NodeId)
  | finished (summary : Summary) (probability : Value)
  deriving Repr

namespace Event

def level : Event → Level
  | .nodeRefused .. => .error
  | .nodesAdded .. => .debug
  | .finished .. => .info

def showTime : Option Int → String
  | none => Value.none.display
  | some t => Decimal.ofInt t

def text : Event → String
  | .nodeRefused id t refusal =>
    "Could not add node " ++ id.display ++ " at t=" ++ Decimal.ofNat t ++ ": " ++ refusal.message
  | .nodesAdded added requested last =>
    "Added " ++ Decimal.ofNat added ++ "/" ++ Decimal.ofNat requested ++
      " nodes, last allocated id " ++ last.display
  | .finished summary probability =>
    summary.generator ++ ": +" ++ Decimal.ofInt summary.nodesAdded ++ " nodes, +" ++
      Decimal.ofInt summary.edgesAdded ++ " edges over " ++ Decimal.ofInt summary.draws ++
      " draws (p=" ++ probability.plain ++ ", seeded=" ++ Value.boolWord summary.seeded ++
      ", latest t=" ++ showTime summary.latestTime ++ ")"

/-- Whether every number in the text is short enough to be written. -/
def fits : Event → Bool
  | .nodeRefused id t _ => id.fits && Decimal.fits t
  | .nodesAdded _ _ last => last.fits
  | .finished summary probability =>
    probability.fits && (summary.latestTime.map Decimal.fits).getD true

def entry (event : Event) : LogEntry := { level := event.level, text := event.text }

end Event

end TemporalNetwork
