import TemporalNetwork.Store

/-!
A store as two tables: one row for each node in the order of the nodes, and one row for each update
of an edge in the order of time, where updates of one time keep the order of the edges. The types of
the nodes are one column, which holds numbers in one form; numbers of other classes stay as they are.
-/

namespace TemporalNetwork

structure NodeRow where
  id : NodeId
  firstSeen : Nat
  updates : Nat
  type : Value
  deriving Repr

structure EdgeRow where
  time : Nat
  source : NodeId
  target : NodeId
  deriving DecidableEq, Repr

structure Table where
  columns : List String
  rows : List (List Value)

/-! ## Columns of types -/

namespace Column

def isNumber : Value → Bool
  | .int _ | .float _ | .none => true
  | _ => false

def whole? : Value → Option Int
  | .int n => some n
  | _ => none

def areWords (numbers : List Int) : Bool :=
  numbers.all (fun n => Int64.minValue.toInt ≤ n && n ≤ Int64.maxValue.toInt) ||
    numbers.all fun n => 0 ≤ n && n < UInt64.size

def widen : Value → Value
  | .int n =>
    match Double.ofInt n with
    | .infinite _ => .int n
    | x => .float x
  | value => value

/-- Whole numbers become doubles beside a double, and where something is missing; too long a number
before the first gap keeps all as they are. -/
def numbers (values : List Value) : List Value :=
  let early := (values.takeWhile fun value => value.kind ≠ .none).filterMap whole?
  if values.all isNumber && areWords early && !values.all (whole? · |>.isSome) then values.map widen
  else values

def dropNan : Value → Value
  | .float .nan => .none
  | value => value

def ofTypes (types : List Value) : List Value := (numbers types).map dropNan

theorem numbers_length (values : List Value) : (numbers values).length = values.length := by
  simp only [numbers]; split <;> simp

theorem ofTypes_length (types : List Value) : (ofTypes types).length = types.length := by
  simp [ofTypes, numbers_length]

end Column

namespace Store

def nodeRows (store : Store) : List NodeRow :=
  store.nodes.map fun node =>
    { id := node.id, firstSeen := node.history.first, updates := node.history.times.length
      type := node.type }

def edgeUpdates (store : Store) : List EdgeRow :=
  store.edgeList.flatMap fun (source, edge) =>
    edge.history.times.map fun time => { time, source, target := edge.target }

def edgeRows (store : Store) : List EdgeRow :=
  store.edgeUpdates.mergeSort fun row other => row.time ≤ other.time

def nodeTable (store : Store) : Table where
  columns := ["id", "first_seen", "updates", "node_type"]
  rows :=
    let types := Column.ofTypes (store.nodeRows.map (·.type))
    List.zipWith (fun row type => [row.id.toValue, .int row.firstSeen, .int row.updates, type])
      store.nodeRows types

def edgeTable (store : Store) : Table where
  columns := ["time", "source", "target"]
  rows := store.edgeRows.map fun row => [.int row.time, row.source.toValue, row.target.toValue]

end Store

end TemporalNetwork
