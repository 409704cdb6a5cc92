import TemporalNetwork.Store

/-!
Updates of a store by arguments of any kind. Time and ids are checked before anything changes;
properties are merged after the update is recorded and before the clock moves, so a fault in them
leaves the record behind and the clock where it was.
-/

namespace TemporalNetwork

inductive Refusal where
  | timeKind (kind : Value.Kind)
  | negativeTime (t : Int)
  | idKind (kind : Value.Kind)
  | foreignId (id : NodeId) (expected : NodeId.Kind)
  | mixedEndpoints (source target : NodeId)
  | taken (id : Value)
  | brokenInvariant
  deriving Repr

def Refusal.message : Refusal → String
  | .timeKind kind => "Event time must be an int, got " ++ kind.name
  | .negativeTime t => "Event time must be non-negative, got " ++ Decimal.ofInt t
  | .idKind kind => "Node id must be an int or str, got " ++ kind.name
  | .foreignId id expected =>
    "Node id " ++ id.display ++ " is a " ++ id.kind.name ++ " but this graph uses " ++
      expected.name ++ " ids"
  | .mixedEndpoints source target =>
    "Edge endpoints " ++ source.display ++ " and " ++ target.display ++ " mix " ++
      source.kind.name ++ " and " ++ target.kind.name ++ " ids"
  | .taken id => "id " ++ id.plain ++ " already taken"
  | .brokenInvariant => "storage invariant violated"

def Refusal.fits : Refusal → Bool
  | .negativeTime t => Decimal.fits t
  | .foreignId id _ => id.fits
  | .mixedEndpoints source target => source.fits && target.fits
  | .taken id => id.fits
  | _ => true

/-- Why an update failed: it was refused, with or without words for it, or what it carried could not
be taken in. -/
inductive UpdateFault where
  | refused (refusal : Refusal)
  | digits
  | properties (fault : Properties.Fault)
  deriving Repr

def UpdateFault.message : UpdateFault → String
  | .refused refusal => refusal.message
  | .digits => Decimal.tooLongMessage
  | .properties fault => fault.message

def Refusal.fault (refusal : Refusal) : UpdateFault :=
  if refusal.fits then .refused refusal else .digits

structure NodeUpdate where
  time : Value
  id : Value
  properties : Value
  type : Value
  deriving Repr

structure EdgeUpdate where
  time : Value
  source : Value
  target : Value
  properties : Value
  type : Value
  deriving Repr

namespace Store

def checkTime : Value → Except Refusal Nat
  | .int n => if n < 0 then .error (.negativeTime n) else .ok n.toNat
  | time => .error (.timeKind time.kind)

def checkKind (store : Store) (id : NodeId) : Except Refusal NodeId :=
  match store.kind? with
  | none => .ok id
  | some expected => if id.kind = expected then .ok id else .error (.foreignId id expected)

def checkId (store : Store) : Value → Except Refusal NodeId
  | .int n => store.checkKind (.int n)
  | .text t => store.checkKind (.text t)
  | id => .error (.idKind id.kind)

def checkNode (store : Store) (update : NodeUpdate) : Except Refusal (Nat × NodeId) :=
  match checkTime update.time with
  | .error refusal => .error refusal
  | .ok t =>
    match store.checkId update.id with
    | .error refusal => .error refusal
    | .ok id => .ok (t, id)

def checkEdge (store : Store) (update : EdgeUpdate) : Except Refusal (Nat × NodeId × NodeId) :=
  match checkTime update.time with
  | .error refusal => .error refusal
  | .ok t =>
    match store.checkId update.source with
    | .error refusal => .error refusal
    | .ok source =>
      match store.checkId update.target with
      | .error refusal => .error refusal
      | .ok target =>
        if source.kind = target.kind then .ok (t, source, target)
        else .error (.mixedEndpoints source target)

/-- Ends an update: the clock moves unless there was a fault. -/
def conclude (t : Nat) : Store × Option Properties.Fault → Store × Option UpdateFault
  | (store, none) => (store.advance t, none)
  | (store, some fault) => (store, some (.properties fault))

def addNode (store : Store) (update : NodeUpdate) : Store × Option UpdateFault :=
  match store.checkNode update with
  | .error refusal => (store, some refusal.fault)
  | .ok (t, id) => conclude t ((store.touchNode t id update.type).mergeNode id update.properties)

def addEdge (store : Store) (update : EdgeUpdate) : Store × Option UpdateFault :=
  match store.checkEdge update with
  | .error refusal => (store, some refusal.fault)
  | .ok (t, source, target) =>
    let joined := ((store.ensureNode t source).ensureNode t target).touchEdge t source target
      update.type
    conclude t (joined.mergeEdge source target update.properties)

end Store

end TemporalNetwork
