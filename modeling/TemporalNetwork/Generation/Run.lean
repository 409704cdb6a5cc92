import TemporalNetwork.Coercion.Number
import TemporalNetwork.Coercion.Field
import TemporalNetwork.Generation.Allocator
import TemporalNetwork.Generation.Event
import TemporalNetwork.Generation.Registry
import TemporalNetwork.Generation.Probability
import TemporalNetwork.Draws.Source
import TemporalNetwork.Store.Guard

/-!
A generation: new nodes at the times after the latest one, then edges among all nodes. A node that
the store refuses is logged and left out, and its time passes all the same; an edge that fails ends
the generation where it stands, and so does a line that cannot be logged, where logging is strict.
The arguments are checked before anything changes.
-/

namespace TemporalNetwork.Generation

inductive Fault where
  | seed (fault : Seed.Fault)
  | countKind (kind : Value.Kind)
  | negativeCount (count : Value)
  | countField (fault : FieldFault)
  | countNotIndex (kind : Value.Kind)
  | probabilityKind (kind : Value.Kind)
  | update (fault : UpdateFault)
  | line
  deriving Repr

def Fault.message : Fault → String
  | .seed fault => fault.message
  | .countKind kind => "'<' not supported between instances of '" ++ kind.name ++ "' and 'int'"
  | .negativeCount count =>
    if count.fits then "n_nodes must be non-negative, got " ++ count.plain
    else Decimal.tooLongMessage
  | .countField fault => FieldFault.reportAll "GenerationSummary" [fault]
  | .countNotIndex kind => "'" ++ kind.name ++ "' object cannot be interpreted as an integer"
  | .probabilityKind kind =>
    "'<' not supported between instances of 'float' and '" ++ kind.name ++ "'"
  | .update fault => fault.message
  | .line => Decimal.tooLongMessage

/-! ## Arguments -/

structure Request where
  count : Value
  probability : Value
  seed : Value
  deriving Repr

def evenProbability : Double := .finite false (1 <<< 52) (-53)

/-- A number of nodes that is no whole number itself: it is compared with zero, then read for the
summary, and only then is an index asked for. -/
def countByIndex (count : Value) (negative : Bool) (index : Option Int) : Except Fault Nat :=
  if negative then .error (.negativeCount count)
  else
    match Coercion.whole count, index with
    | .error fault, _ => .error (.countField { field := "nodes_requested", fault, input := count })
    | .ok _, none => .error (.countNotIndex count.kind)
    | .ok _, some n => .ok n.toNat

def requestedCount : Value → Except Fault Nat
  | .bool truth => .ok (if truth then 1 else 0)
  | .int n => if n < 0 then .error (.negativeCount (.int n)) else .ok n.toNat
  | .float x => countByIndex (.float x) x.isNegative none
  | .object traits items =>
    match traits.ordered? with
    | none => .error (.countKind (.object traits.className))
    | some n => countByIndex (.object traits items) (n < 0) traits.index?
  | count => .error (.countKind count.kind)

/-! ## New nodes -/

/-- A phase of new nodes: the ids still to come, the last one that came and the time it came at. -/
structure NodePhase where
  store : GuardedStore
  allocator : Allocator
  last : Option NodeId
  time : Nat
  added : Nat
  events : List Event
  deriving Repr

def plainNode (t : Nat) (id : NodeId) : NodeUpdate :=
  { time := .int t, id := id.toValue, properties := .none, type := .none }

def plainEdge (t : Nat) (source target : NodeId) : EdgeUpdate :=
  { time := .int t, source := source.toValue, target := target.toValue, properties := .none
    type := .none }

def lineFault? (logging : Logging) (event : Event) : Option Fault :=
  match logging with
  | .lenient => none
  | .strict => if event.fits then none else some .line

namespace NodePhase

def start (store : GuardedStore) : NodePhase where
  store := store
  allocator := .ofStore store.store
  last := none
  time := store.store.latest.getD 0
  added := 0
  events := []

def log (phase : NodePhase) (logging : Logging) (event : Event) : NodePhase × Option Fault :=
  match lineFault? logging event with
  | none => ({ phase with events := phase.events ++ [event] }, none)
  | some fault => (phase, some fault)

def allocate (phase : NodePhase) : NodePhase :=
  { phase with
    allocator := phase.allocator.next.2
    last := some phase.allocator.next.1
    time := phase.time + 1 }

def tryNode (logging : Logging) (phase : NodePhase) : NodePhase × Option Fault :=
  let id := phase.allocator.next.1
  let phase := phase.allocate
  match phase.store.addNode (plainNode phase.time id) with
  | (store, none) => ({ phase with store, added := phase.added + 1 }, none)
  | (store, some (.refused refusal)) =>
    { phase with store }.log logging (.nodeRefused id phase.time refusal)
  | (store, some fault) => ({ phase with store }, some (.update fault))

def tryNodes (logging : Logging) : Nat → NodePhase → NodePhase × Option Fault
  | 0, phase => (phase, none)
  | count + 1, phase =>
    match tryNode logging phase with
    | (phase, none) => tryNodes logging count phase
    | (phase, some fault) => (phase, some fault)

def conclude (logging : Logging) (count : Nat) (phase : NodePhase) : NodePhase × Option Fault :=
  match phase.last with
  | none => (phase, none)
  | some last => phase.log logging (.nodesAdded phase.added count last)

end NodePhase

def newNodes (logging : Logging) (store : GuardedStore) (count : Nat) :
    NodePhase × Option Fault :=
  match NodePhase.tryNodes logging count (.start store) with
  | (phase, none) => phase.conclude logging count
  | (phase, some fault) => (phase, some fault)

/-! ## New edges -/

structure EdgePhase where
  store : GuardedStore
  source : Source
  time : Nat
  added : Nat

namespace EdgePhase

def link (phase : EdgePhase) (pair : NodeId × NodeId) : EdgePhase × Option Fault :=
  let phase := { phase with time := phase.time + 1 }
  match phase.store.addEdge (plainEdge phase.time pair.1 pair.2) with
  | (store, none) => ({ phase with store, added := phase.added + 1 }, none)
  | (store, some fault) => ({ phase with store }, some (.update fault))

/-- Decides one pair of nodes by a draw; no draw is made for a node with itself. A probability that
is no number shows at the draw. -/
def tryPair (p : Except Value.Kind Probability) (phase : EdgePhase) (pair : NodeId × NodeId) :
    EdgePhase × Option Fault :=
  if pair.1 = pair.2 then (phase, none)
  else
    let (draw, source) := phase.source.uniform
    let phase := { phase with source }
    match p with
    | .error kind => (phase, some (.probabilityKind kind))
    | .ok p => if p.selects draw then phase.link pair else (phase, none)

def tryPairs (p : Except Value.Kind Probability) :
    List (NodeId × NodeId) → EdgePhase → EdgePhase × Option Fault
  | [], phase => (phase, none)
  | pair :: rest, phase =>
    match tryPair p phase pair with
    | (phase, none) => tryPairs p rest phase
    | (phase, some fault) => (phase, some fault)

end EdgePhase

def allPairs (ids : List NodeId) : List (NodeId × NodeId) :=
  ids.flatMap fun source => ids.map (source, ·)

/-! ## The whole -/

structure Outcome where
  store : GuardedStore
  events : List Event
  result : Except Fault Summary

def connect (phase : NodePhase) (count : Nat) (p : Except Value.Kind Probability)
    (source : Source) : Outcome :=
  let edges : EdgePhase := { store := phase.store, source, time := phase.time, added := 0 }
  match EdgePhase.tryPairs p (allPairs phase.store.store.ids) edges with
  | (edges, some fault) =>
    { store := edges.store, events := phase.events, result := .error fault }
  | (edges, none) =>
    { store := edges.store
      events := phase.events
      result := .ok {
        generator := Generator.erdosRenyi.name
        nodesRequested := count
        nodesAdded := phase.added
        edgesAdded := edges.added
        draws := (edges.source.drawn : Int) - source.drawn
        seeded := source.seeded
        latestTime := edges.store.store.latest.map fun t => (t : Int) } }

def populate (logging : Logging) (store : GuardedStore) (count : Nat)
    (p : Except Value.Kind Probability) (source : Source) : Outcome :=
  match newNodes logging store count with
  | (phase, some fault) => { store := phase.store, events := phase.events, result := .error fault }
  | (phase, none) => connect phase count p source

/-- The seed is looked at first and the number of nodes next; a fault in them changes nothing. -/
def run (resources : Resources) (logging : Logging) (store : GuardedStore) (request : Request) :
    Outcome :=
  match Source.ofValue resources request.seed with
  | .error fault => { store, events := [], result := .error (.seed fault) }
  | .ok source =>
    match requestedCount request.count with
    | .error fault => { store, events := [], result := .error fault }
    | .ok count => populate logging store count (Probability.ofValue request.probability) source

def generate (resources : Resources) (logging : Logging) (store : GuardedStore) (request : Request) :
    Outcome :=
  let outcome := run resources logging store request
  match outcome.result with
  | .error _ => outcome
  | .ok summary =>
    let event := Event.finished summary request.probability
    match lineFault? logging event with
    | none => { outcome with events := outcome.events ++ [event] }
    | some fault => { outcome with result := .error fault }

end TemporalNetwork.Generation
