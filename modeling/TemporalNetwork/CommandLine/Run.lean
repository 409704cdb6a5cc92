import TemporalNetwork.CommandLine.Arguments
import TemporalNetwork.CommandLine.Destination
import TemporalNetwork.CommandLine.Usage
import TemporalNetwork.Config
import TemporalNetwork.GraphFile.Reading
import TemporalNetwork.GraphFile.Writing
import TemporalNetwork.Store.Csv
import TemporalNetwork.Text.UpperCase

/-!
A run of the program: read the command line, load a graph or start with none, generate, and write
the graph and its edges where asked. Wrong options end the run with a usage text; a configuration or
a graph file that cannot be taken ends it with a line in the log.

The environment comes as it is: settings that a file of the working directory would add to it are left
out, as if there were none.
-/

namespace TemporalNetwork.CommandLine

structure Environment where
  program : String
  home : String
  logLevel : Option String
  resources : Resources

inductive Escape where
  | levelKind (kind : Value.Kind)
  | unknownLevel (word : Text)
  | seedSize (fault : Seed.Fault)
  | load (path : String) (fault : GraphFile.LoadFault)
  | generation (fault : Generation.Fault)
  | opening (path : String) (fault : Workspace.PathFault)
  | destination (fault : Destination.Fault)
  | unwritable (cause : Json.Unwritable)
  | row (fault : Csv.Fault)
  deriving Repr

def Escape.message : Escape → String
  | .levelKind kind => "'" ++ kind.name ++ "' object has no attribute 'upper'"
  | .unknownLevel word => "Unknown level: " ++ Text.quoted word
  | .seedSize fault => fault.message
  | .load path fault => fault.message path
  | .generation fault => fault.message
  | .opening path fault => fault.message path
  | .destination fault => fault.message
  | .unwritable cause => cause.message
  | .row fault => fault.message

/-- How a run ends: with a code of its own, with a code while the options are read, or with a fault
that nothing takes care of. -/
inductive Ending where
  | returned (code : Nat)
  | exited (code : Nat)
  | escaped (escape : Escape)
  deriving Repr

structure Outcome where
  ending : Ending
  output : String
  errors : String
  workspace : Workspace

/-! ## The log -/

def logThreshold : Value → Except Escape Nat
  | .text word =>
    let upper := Text.upperCase word
    match thresholdNamed? upper with
    | some rank => .ok rank
    | none => .error (.unknownLevel upper)
  | level => .error (.levelKind level.kind)

def info (text : String) : LogEntry := { level := .info, text }

def failure (text : String) : LogEntry := { level := .error, text }

/-! ## Stages -/

/-- What a stage leaves behind: the log so far, the working directory, and either what the next
stage needs or the end of the run. -/
structure Progress (α : Type) where
  log : List LogEntry
  workspace : Workspace
  next : Except Ending α

def Progress.andThen (progress : Progress α)
    (stage : Workspace → α → Progress β) : Progress β :=
  match progress.next with
  | .error ending => { log := progress.log, workspace := progress.workspace, next := .error ending }
  | .ok value =>
    let rest := stage progress.workspace value
    { rest with log := progress.log ++ rest.log }

def Settings.fields (settings : Settings) : Fields := [
  ("generator", settings.generator), ("n_nodes", settings.nodes), ("p", settings.probability),
  ("seed", settings.seed)]

def configure (memory : Nat) (settings : Settings) (workspace : Workspace) : Progress Config :=
  match Config.ofFields memory settings.fields with
  | .ok config => { log := [], workspace, next := .ok config }
  | .error (.seedSize fault) => { log := [], workspace, next := .error (.escaped (.seedSize fault)) }
  | .error (.fields faults) =>
    let report := "Invalid arguments: " ++ FieldFault.reportAll "GenerationConfig" faults
    { log := [failure report], workspace, next := .error (.returned 2) }

def path? : Value → Option String
  | .text (.whole path) => if path = "" then none else some path
  | _ => none

def isReported : GraphFile.LoadFault → Bool
  | .directory => false
  | .json _ (.tooDeep _) => false
  | _ => true

def loadInput (settings : Settings) (workspace : Workspace) : Progress Store :=
  match path? settings.input with
  | none => { log := [], workspace, next := .ok .empty }
  | some path =>
    match GraphFile.load workspace path with
    | .ok store =>
      let loaded := "Loaded " ++ path ++ ": " ++ Decimal.ofNat store.nodeCount ++ " nodes, " ++
        Decimal.ofNat store.edgeCount ++ " edges"
      { log := [info loaded], workspace, next := .ok store }
    | .error fault =>
      if isReported fault then
        { log := [failure ("Could not load " ++ path ++ ": " ++ fault.message path)], workspace
          next := .error (.returned 2) }
      else { log := [], workspace, next := .error (.escaped (.load path fault)) }

def generateInto (resources : Resources) (config : Config) (workspace : Workspace) (store : Store) :
    Progress (Store × Summary) :=
  let outcome := Generation.generate resources .lenient (.ofStore store) config.request
  { log := (outcome.events.filter Event.fits).map Event.entry
    workspace
    next := match outcome.result with
      | .ok summary => .ok (outcome.store.store, summary)
      | .error fault => .error (.escaped (.generation fault)) }

def writeGraph (settings : Settings) (store : Store) (workspace : Workspace) : Progress Unit :=
  match path? settings.output with
  | none => { log := [], workspace, next := .ok () }
  | some path =>
    let written := store.document.write
    match workspace.write path written.bytes with
    | .error fault => { log := [], workspace, next := .error (.escaped (.opening path fault)) }
    | .ok workspace =>
      match written.fault with
      | some cause => { log := [], workspace, next := .error (.escaped (.unwritable cause)) }
      | none => { log := [info ("Wrote graph to " ++ path)], workspace, next := .ok () }

def writeEdges (home : String) (settings : Settings) (store : Store) (workspace : Workspace) :
    Progress Unit :=
  match path? settings.edgesCsv with
  | none => { log := [], workspace, next := .ok () }
  | some path =>
    let written := store.edgeCsv
    match Destination.save home workspace path (Utf8.encode written.text.toList) with
    | .error fault => { log := [], workspace, next := .error (.escaped (.destination fault)) }
    | .ok workspace =>
      match written.fault with
      | some fault => { log := [], workspace, next := .error (.escaped (.row fault)) }
      | none =>
        let wrote := "Wrote " ++ Decimal.ofNat store.edgeRows.length ++ " edge rows to " ++ path
        { log := [info wrote], workspace, next := .ok () }

def perform (environment : Environment) (settings : Settings) (workspace : Workspace) :
    Progress Summary :=
  (configure environment.resources.memory settings workspace).andThen fun workspace config =>
  (loadInput settings workspace).andThen fun workspace store =>
  (generateInto environment.resources config workspace store).andThen
    fun workspace (store, summary) =>
  (writeGraph settings store workspace).andThen fun workspace _ =>
  (writeEdges environment.home settings store workspace).andThen fun workspace _ =>
    { log := [], workspace, next := .ok summary }

/-! ## The whole -/

def stopped (program : String) (workspace : Workspace) (stop : Stop) : Outcome :=
  match stop with
  | .help => { ending := .exited 0, output := help program, errors := "", workspace }
  | stop =>
    { ending := .exited 2
      output := ""
      errors := usage program ++ program ++ ": error: " ++ stop.message ++ "\n"
      workspace }

def run (environment : Environment) (arguments : List String) (workspace : Workspace) : Outcome :=
  match parse (environment.logLevel.getD Level.info.name) arguments with
  | .error stop => stopped environment.program workspace stop
  | .ok settings =>
    match logThreshold settings.logLevel with
    | .error escape => { ending := .escaped escape, output := "", errors := "", workspace }
    | .ok least =>
      let progress := perform environment settings workspace
      { ending := match progress.next with
          | .error ending => ending
          | .ok _ => .returned 0
        output := match progress.next with
          | .error _ => ""
          | .ok summary => summary.report ++ "\n"
        errors := showLog least progress.log
        workspace := progress.workspace }

end TemporalNetwork.CommandLine
