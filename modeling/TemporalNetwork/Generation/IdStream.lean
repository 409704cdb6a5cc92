import TemporalNetwork.Generation.Successors

/-!
Streams of ids, opened with a last id. A stream reads its graph when its first id is asked for, and
only then; when it finds no successor it ends.
-/

namespace TemporalNetwork

/-- Before its first id a stream has read no graph: it will read the one that is current then,
unless it is bound to another one. -/
inductive IdStream where
  | unread (last : Value) (bound : Option Store)
  | running (successors : Successors)
  | ended
  deriving Repr

namespace IdStream

inductive Fault where
  | noSuccessor (fault : Successors.Fault)
  | ended
  deriving DecidableEq, Repr

def Fault.message : Fault → String
  | .noSuccessor fault => fault.message
  | .ended => ""

def bind (store : Store) : IdStream → IdStream
  | .unread last none => .unread last (some store)
  | stream => stream

def take (current : Store) (count : Nat) : IdStream → Except Fault (List Value) × IdStream
  | .ended => (.error .ended, .ended)
  | .running successors =>
    let (ids, rest) := successors.take count
    (.ok ids, .running rest)
  | .unread last bound =>
    match Successors.after (bound.getD current) last with
    | .error fault => (.error (.noSuccessor fault), .ended)
    | .ok successors =>
      let (ids, rest) := successors.take count
      (.ok ids, .running rest)

end IdStream

end TemporalNetwork
