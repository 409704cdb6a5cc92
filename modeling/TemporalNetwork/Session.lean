import TemporalNetwork.Generation.Run
import TemporalNetwork.Generation.IdStream
import TemporalNetwork.GraphFile.Reading
import TemporalNetwork.GraphFile.Writing
import TemporalNetwork.Store.Query
import TemporalNetwork.Store.Table

/-!
A session: steps on one graph and one working directory, with streams of ids under names. A step
that fails does not end the session. A stream keeps to the graph that it was opened on, also when
the session has loaded another one since.
-/

namespace TemporalNetwork

structure Session where
  store : GuardedStore
  workspace : Workspace
  streams : List (String × IdStream)

inductive Question where
  | latestTime
  | earliestTime
  | nodeIds
  | countNodes
  | countEdges
  | edges
  | hasNode (id : Value)
  | nodeHistory (id : Value)
  | nodeType (id : Value)
  | hasEdge (source target : Value)
  | edgeHistory (source target : Value)
  | nodeTable
  | edgeTable
  | graph
  | nextId (last : Value)
  deriving Repr

inductive Step where
  | ask (question : Question)
  | addNode (update : NodeUpdate)
  | addEdge (update : EdgeUpdate)
  | openStream (name : String) (last : Value)
  | nextIds (name : String) (count : Nat)
  | populate (request : Generation.Request)
  | generate (request : Generation.Request)
  | save
  | load (path : String) (content : Option (List UInt8))
  | reload
  deriving Repr

inductive Reply where
  | value (value : Value)
  | table (table : Table)
  | graph (store : Store)
  | summary (summary : Summary)

inductive StepFault where
  | update (fault : UpdateFault)
  | key (fault : KeyFault)
  | successor (fault : Successors.Fault)
  | stream (fault : IdStream.Fault)
  | unknownStream (name : String)
  | generation (fault : Generation.Fault)
  | opening (path : String) (fault : Workspace.PathFault)
  | unwritable (cause : Json.Unwritable)
  | load (path : String) (fault : GraphFile.LoadFault)

def StepFault.message : StepFault → String
  | .update fault => fault.message
  | .key fault => fault.message
  | .successor fault => fault.message
  | .stream fault => fault.message
  | .unknownStream name => (Value.text name).display
  | .generation fault => fault.message
  | .opening path fault => fault.message path
  | .unwritable cause => cause.message
  | .load path fault => fault.message path

structure StepOutcome where
  result : Except StepFault Reply
  events : List Event

namespace StepOutcome

def quiet (result : Except StepFault Reply) : StepOutcome := { result, events := [] }

def ok (value : Value) : StepOutcome := quiet (.ok (.value value))

def error (fault : StepFault) : StepOutcome := quiet (.error fault)

end StepOutcome

namespace Session

def start (guard : Option Guard) (workspace : Workspace) : Session :=
  { store := { store := .empty, guard }, workspace, streams := [] }

def savedPath : String := "out.json"

def timeValue : Option Nat → Value
  | none => .none
  | some t => .int t

def historyValue (times : List Nat) : Value := .list (times.map fun t => .int (t : Nat))

/-! ## Updates -/

def afterUpdate (session : Session) (outcome : GuardedStore × Option UpdateFault) :
    Session × StepOutcome :=
  ({ session with store := outcome.1 }, match outcome.2 with
    | none => .ok .none
    | some fault => .error (.update fault))

def afterGeneration (session : Session) (outcome : Generation.Outcome)
    (reply : Summary → Reply) : Session × StepOutcome :=
  ({ session with store := outcome.store },
    { result := (outcome.result.map reply).mapError .generation, events := outcome.events })

/-! ## Streams of ids -/

def stream? (session : Session) (name : String) : Option IdStream :=
  (session.streams.find? (·.1 = name)).map (·.2)

def setStream (session : Session) (name : String) (stream : IdStream) : Session :=
  { session with streams := (name, stream) :: session.streams.filter (·.1 ≠ name) }

def nextIds (session : Session) (name : String) (count : Nat) : Session × StepOutcome :=
  if count = 0 then (session, .ok (.list []))
  else
    match session.stream? name with
    | none => (session, .error (.unknownStream name))
    | some stream =>
      let (ids, rest) := stream.take session.store.store count
      (session.setStream name rest,
        .quiet ((ids.map fun ids => .value (.list ids)).mapError .stream))

/-! ## Files -/

/-- Puts another graph in the place of the session's, without a guard. -/
def replaceStore (session : Session) (store : Store) : Session :=
  { session with
    store := .ofStore store
    streams := session.streams.map fun (name, stream) =>
      (name, stream.bind session.store.store) }

def write (session : Session) (path : String) (content : List UInt8) :
    Except StepFault Session :=
  match session.workspace.write path content with
  | .error fault => .error (.opening path fault)
  | .ok workspace => .ok { session with workspace }

def save (session : Session) : Session × Except StepFault (List Char) :=
  let written := session.store.store.document.write
  match session.write savedPath written.bytes with
  | .error fault => (session, .error fault)
  | .ok session =>
    match written.fault with
    | some cause => (session, .error (.unwritable cause))
    | none => (session, .ok written.text)

def load (session : Session) (path : String) : Session × StepOutcome :=
  match GraphFile.load session.workspace path with
  | .error fault => (session, .error (.load path fault))
  | .ok store => (session.replaceStore store, .ok .none)

/-! ## Steps -/

def keyed (answer : Except KeyFault Value) : Except StepFault Reply :=
  (answer.map .value).mapError .key

def ask (store : Store) : Question → Except StepFault Reply
  | .latestTime => .ok (.value (timeValue store.latest))
  | .earliestTime => .ok (.value (timeValue store.earliest))
  | .nodeIds => .ok (.value (.list (store.ids.map NodeId.toValue)))
  | .countNodes => .ok (.value (.int store.nodeCount))
  | .countEdges => .ok (.value (.int store.edgeCount))
  | .edges =>
    .ok (.value (.list (store.pairs.map fun (source, target) =>
      .tuple [source.toValue, target.toValue])))
  | .hasNode id => .ok (.value (.bool (store.hasNode id)))
  | .nodeHistory id => keyed ((store.nodeHistory id).map historyValue)
  | .nodeType id => keyed (store.nodeType id)
  | .hasEdge source target => keyed ((store.hasEdge source target).map Value.bool)
  | .edgeHistory source target => keyed ((store.edgeHistory source target).map historyValue)
  | .nodeTable => .ok (.table store.nodeTable)
  | .edgeTable => .ok (.table store.edgeTable)
  | .graph => .ok (.graph store)
  | .nextId last => ((Successors.nextId store last).map .value).mapError .successor

def step (resources : Resources) (session : Session) (step : Step) : Session × StepOutcome :=
  match step with
  | .ask question => (session, .quiet (ask session.store.store question))
  | .addNode update => session.afterUpdate (session.store.addNode update)
  | .addEdge update => session.afterUpdate (session.store.addEdge update)
  | .openStream name last => (session.setStream name (.unread last none), .ok .none)
  | .nextIds name count => session.nextIds name count
  | .populate request =>
    session.afterGeneration (Generation.run resources .strict session.store request)
      fun _ => .value .none
  | .generate request =>
    session.afterGeneration (Generation.generate resources .strict session.store request) .summary
  | .save =>
    let (session, result) := session.save
    (session, .quiet (result.map fun text => .value (.text (String.ofList text))))
  | .load path none => session.load path
  | .load path (some content) =>
    match session.write path content with
    | .error fault => (session, .error fault)
    | .ok session => session.load path
  | .reload =>
    match session.save with
    | (session, .error fault) => (session, .error fault)
    | (session, .ok _) => session.load savedPath

end Session

end TemporalNetwork
