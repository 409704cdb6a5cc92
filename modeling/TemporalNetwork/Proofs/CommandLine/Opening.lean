import TemporalNetwork.Proofs.CommandLine.Options
import TemporalNetwork.Proofs.CommandLine.Stages
import TemporalNetwork.Proofs.Workspace

/-!
The opening of a run: all that happens before the generation. The options, the configuration and the
input are checked by parts of their own, and most of what can be wrong with them is told, by a usage
text or by a line in the log. Main statement: a fault escapes from the opening exactly if no level
has the name that is given for one, or if the configuration is accepted and the input is a directory
or has brackets nested too deep for its reader; every other opening that fails says why.
-/

namespace TemporalNetwork

/-! ## Inputs that cannot be loaded -/

namespace GraphFile

/-- A path that leads to a directory, or to a file whose brackets are nested too deep for the
reader. -/
inductive Unloadable (workspace : Workspace) (path : String) : Prop
  | directory (found : workspace.find path = .ok .directory)
  | nesting {content : List UInt8} {text : List Char} {container : String}
      (found : workspace.read path = .ok content) (decoded : Utf8.decode content = .ok text)
      (deep : Json.parse (Utf8.universalNewlines text) = .error (.tooDeep container))

section Unreported

variable {fault : LoadFault} (unreported : CommandLine.isReported fault = false)
include unreported

theorem tooDeep_of_parse {text : List Char} (failed : parse text = .error fault) :
    ∃ container, Json.parse text = .error (.tooDeep container) := by
  rw [parse] at failed
  split at failed
  · next error malformed =>
    cases failed
    cases error with
    | tooDeep container => exact ⟨container, malformed⟩
    | _ => cases unreported
  · next json _ =>
    cases formed : Document.ofJson json with
    | ok document =>
      rw [formed] at failed
      cases failed
    | error cause =>
      rw [formed] at failed
      cases failed
      cases unreported

theorem tooDeep_of_ofBytes {content : List UInt8} (failed : ofBytes content = .error fault) :
    ∃ text container, Utf8.decode content = .ok text ∧
      Json.parse (Utf8.universalNewlines text) = .error (.tooDeep container) := by
  rw [ofBytes] at failed
  split at failed
  · cases failed
    cases unreported
  · next text decoded =>
    split at failed
    · next unparsed =>
      cases failed
      obtain ⟨container, deep⟩ := tooDeep_of_parse unreported unparsed
      exact ⟨text, container, decoded, deep⟩
    · next document _ =>
      cases replayed : document.replay with
      | ok store =>
        rw [replayed] at failed
        cases failed
      | error cause =>
        rw [replayed] at failed
        cases failed
        cases unreported

end Unreported

theorem exists_unreported_iff {workspace : Workspace} {path : String} :
    (∃ fault, load workspace path = .error fault ∧ CommandLine.isReported fault = false) ↔
      Unloadable workspace path := by
  constructor
  · rintro ⟨fault, failed, unreported⟩
    rw [load] at failed
    split at failed
    · next missed => exact .directory (Workspace.read_eq_directory.1 missed)
    · cases failed
      cases unreported
    · next content found =>
      obtain ⟨text, container, decoded, deep⟩ := tooDeep_of_ofBytes unreported failed
      exact .nesting found decoded deep
  · rintro (found | @⟨content, text, container, found, decoded, deep⟩)
    · exact ⟨.directory, by rw [load, Workspace.read_eq_directory.2 found], rfl⟩
    · refine ⟨.json (Utf8.universalNewlines text) (.tooDeep container), ?_, rfl⟩
      rw [load, found]
      simp only [ofBytes, decoded, parse, deep]

end GraphFile

namespace CommandLine

variable {environment : Environment} {arguments : List String} {workspace : Workspace}
variable {memory : Nat} {settings : Settings}

/-! ## Each check -/

/-- A value that is the name of a level in any case. -/
def NamesLevel (level : Value) : Prop :=
  ∃ word, level = .text word ∧ Text.upperCase word ∈ levelWords.map Prod.fst

theorem isSome_thresholdNamed? (word : Text) :
    (thresholdNamed? word).isSome = true ↔ word ∈ levelWords.map Prod.fst := by
  simp only [thresholdNamed?, Option.isSome_map, List.find?_isSome, decide_eq_true_eq,
    List.mem_map]

theorem exists_logThreshold_iff {level : Value} :
    (∃ least, logThreshold level = .ok least) ↔ NamesLevel level := by
  cases level with
  | text word =>
    have named : NamesLevel (.text word) ↔ (thresholdNamed? (Text.upperCase word)).isSome := by
      rw [isSome_thresholdNamed?]
      constructor
      · rintro ⟨own, same, known⟩
        cases same
        exact known
      · exact fun known => ⟨word, rfl, known⟩
    rw [named, logThreshold]
    cases thresholdNamed? (Text.upperCase word) <;> simp
  | _ =>
    constructor
    · rintro ⟨least, shown⟩
      cases shown
    · rintro ⟨word, same, _⟩
      cases same

/-- What an option of a text can be: left out, given, or taken away. -/
def IsWord (value : Value) : Prop := value = .none ∨ (∃ s, value = .text s) ∨ value = .list []

theorem isWord_seed {level : String} (parsed : parse level arguments = .ok settings) :
    IsWord settings.seed := by
  have step : ∀ (settings : Settings) flag given after, settings.read flag given = .ok after →
      IsWord settings.seed → IsWord after.seed := by
    intro settings flag given after entered word
    rw [Settings.read] at entered
    split at entered
    · cases entered
      cases flag with
      | seed => exact .inr (.inr rfl)
      | _ => exact word
    · cases own : readSetting flag given with
      | error stop =>
        rw [own] at entered
        cases entered
      | ok value =>
        rw [own] at entered
        cases entered
        cases flag with
        | seed =>
          cases own
          exact .inr (.inl ⟨given, rfl⟩)
        | _ => exact word
  exact parse_preserves step (.inl rfl) parsed

-- Only a number can be a seed of a size that no field could have, and no option gives a number.
theorem seedSizeFault?_of_isWord (word : IsWord settings.seed) :
    Config.seedSizeFault? memory settings.fields = none := by
  have found : settings.fields.find? "seed" = some settings.seed := rfl
  rw [Config.seedSizeFault?, found]
  rcases word with nothing | ⟨s, text⟩ | taken
  · rw [nothing]
    rfl
  · rw [text]
    rfl
  · rw [taken]
    rfl

theorem ofFields_ne_seedSize (word : IsWord settings.seed) (fault : Seed.Fault) :
    Config.ofFields memory settings.fields ≠ .error (.seedSize fault) := by
  rw [Config.ofFields, seedSizeFault?_of_isWord word]
  cases Config.check memory settings.fields <;> exact nofun

/-! ## The opening -/

def prepare (memory : Nat) (settings : Settings) (workspace : Workspace) : Progress (Config × Store) :=
  (configure memory settings workspace).andThen fun workspace config =>
  (loadInput settings workspace).andThen fun workspace store =>
    { log := [], workspace, next := .ok (config, store) }

def complete (environment : Environment) (settings : Settings) (workspace : Workspace)
    (start : Config × Store) : Progress Summary :=
  (generateInto environment.resources start.1 workspace start.2).andThen
    fun workspace (store, summary) =>
  (writeGraph settings store workspace).andThen fun workspace _ =>
  (writeEdges environment.home settings store workspace).andThen fun workspace _ =>
    { log := [], workspace, next := .ok summary }

theorem perform_eq (environment : Environment) (settings : Settings) (workspace : Workspace) :
    perform environment settings workspace =
      (prepare environment.resources.memory settings workspace).andThen
        (complete environment settings) := by
  simp only [prepare, Progress.andThen_assoc, Progress.done_andThen]
  rfl

def settingsOf (environment : Environment) (arguments : List String) : Except Stop Settings :=
  parse (environment.logLevel.getD Level.info.name) arguments

structure Opened where
  settings : Settings
  least : Nat
  log : List LogEntry
  config : Config
  store : Store

def opening (environment : Environment) (arguments : List String) (workspace : Workspace) :
    Except Outcome Opened :=
  match settingsOf environment arguments with
  | .error stop => .error (stopped environment.program workspace stop)
  | .ok settings =>
    match logThreshold settings.logLevel with
    | .error escape => .error { ending := .escaped escape, output := "", errors := "", workspace }
    | .ok least =>
      let progress := prepare environment.resources.memory settings workspace
      match progress.next with
      | .error ending =>
        .error { ending, output := "", errors := showLog least progress.log, workspace }
      | .ok (config, store) => .ok { settings, least, log := progress.log, config, store }

def proceed (environment : Environment) (opened : Opened) (workspace : Workspace) : Outcome :=
  let progress := complete environment opened.settings workspace (opened.config, opened.store)
  { ending := match progress.next with
      | .error ending => ending
      | .ok _ => .returned 0
    output := match progress.next with
      | .error _ => ""
      | .ok summary => summary.report ++ "\n"
    errors := showLog opened.least (opened.log ++ progress.log)
    workspace := progress.workspace }

/-! ## What escapes -/

/-- The configuration is accepted, but the input that is to be extended cannot be loaded. -/
def Unread (memory : Nat) (settings : Settings) (workspace : Workspace) : Prop :=
  (∃ config, Config.ofFields memory settings.fields = .ok config) ∧
    ∃ path, path? settings.input = some path ∧ GraphFile.Unloadable workspace path

/-- The options can be read, but the level they set is none or the input they name is unread. -/
def Overlooked (environment : Environment) (arguments : List String) (workspace : Workspace) :
    Prop :=
  ∃ settings, settingsOf environment arguments = .ok settings ∧
    (¬NamesLevel settings.logLevel ∨ Unread environment.resources.memory settings workspace)

def Extends (settings : Settings) (workspace : Workspace) (store : Store) : Prop :=
  match path? settings.input with
  | none => store = .empty
  | some path => GraphFile.load workspace path = .ok store

inductive Complaint (memory : Nat) (settings : Settings) (workspace : Workspace) : String → Prop
  | configuration {faults : List FieldFault}
      (refused : Config.ofFields memory settings.fields = .error (.fields faults)) :
    Complaint memory settings workspace
      ("Invalid arguments: " ++ FieldFault.reportAll "GenerationConfig" faults)
  | input {path : String} {fault : GraphFile.LoadFault} (named : path? settings.input = some path)
      (failed : GraphFile.load workspace path = .error fault)
      (handled : isReported fault = true) :
    Complaint memory settings workspace ("Could not load " ++ path ++ ": " ++ fault.message path)

/-- What the stages before the generation leave behind. None of them touches the working directory;
one that ends the run says why in a line, except where the input is unread. -/
inductive Prepared (memory : Nat) (settings : Settings) (workspace : Workspace) :
    Progress (Config × Store) → Prop
  | ready {config : Config} {store : Store} (log : List LogEntry)
      (configured : Config.ofFields memory settings.fields = .ok config)
      (loaded : Extends settings workspace store) :
    Prepared memory settings workspace { log, workspace, next := .ok (config, store) }
  | told {text : String} (why : Complaint memory settings workspace text) :
    Prepared memory settings workspace
      { log := [failure text], workspace, next := .error (.returned 2) }
  | overlooked (escape : Escape) (unread : Unread memory settings workspace) :
    Prepared memory settings workspace { log := [], workspace, next := .error (.escaped escape) }

theorem Unread.exists_fault (unread : Unread memory settings workspace) :
    ∃ path fault, path? settings.input = some path ∧
      GraphFile.load workspace path = .error fault ∧ isReported fault = false := by
  obtain ⟨_, path, named, unloadable⟩ := unread
  obtain ⟨fault, failed, unreported⟩ := GraphFile.exists_unreported_iff.2 unloadable
  exact ⟨path, fault, named, failed, unreported⟩

theorem not_unread_of_complaint {text : String} (why : Complaint memory settings workspace text) :
    ¬Unread memory settings workspace := by
  intro unread
  cases why with
  | configuration refused =>
    obtain ⟨⟨config, accepted⟩, _⟩ := unread
    cases refused.symm.trans accepted
  | input named failed handled =>
    obtain ⟨path, fault, same, again, unreported⟩ := unread.exists_fault
    cases named.symm.trans same
    cases failed.symm.trans again
    cases handled.symm.trans unreported

theorem not_unread_of_extends {store : Store} (loaded : Extends settings workspace store) :
    ¬Unread memory settings workspace := by
  intro unread
  obtain ⟨path, fault, named, failed, _⟩ := unread.exists_fault
  rw [Extends, named] at loaded
  cases loaded.symm.trans failed

theorem prepared (word : IsWord settings.seed) :
    Prepared memory settings workspace (prepare memory settings workspace) := by
  rw [prepare, configure]
  cases configured : Config.ofFields memory settings.fields with
  | error fault =>
    cases fault with
    | seedSize fault => exact absurd configured (ofFields_ne_seedSize word fault)
    | fields faults => exact .told (.configuration configured)
  | ok config =>
    simp only [Progress.done_andThen, loadInput]
    cases named : path? settings.input with
    | none => exact .ready [] configured (by simp only [Extends, named])
    | some path =>
      simp only
      cases loaded : GraphFile.load workspace path with
      | ok store => exact .ready _ configured (by simp only [Extends, named, loaded])
      | error fault =>
        cases reported : isReported fault with
        | true =>
          simp only [reported, if_true]
          exact .told (.input named loaded reported)
        | false =>
          simp only [reported, Bool.false_eq_true, if_false]
          exact .overlooked _ ⟨⟨config, configured⟩, path, named,
            GraphFile.exists_unreported_iff.1 ⟨fault, loaded, reported⟩⟩

/-! ## The whole -/

theorem run_eq (environment : Environment) (arguments : List String) (workspace : Workspace) :
    run environment arguments workspace =
      match opening environment arguments workspace with
      | .error outcome => outcome
      | .ok opened => proceed environment opened workspace := by
  rw [run, opening, settingsOf]
  cases parsed : parse (environment.logLevel.getD Level.info.name) arguments with
  | error stop => rfl
  | ok settings =>
    simp only
    cases logThreshold settings.logLevel with
    | error escape => rfl
    | ok least =>
      have kept : Prepared environment.resources.memory settings workspace
          (prepare environment.resources.memory settings workspace) :=
        prepared (isWord_seed parsed)
      simp only [perform_eq]
      generalize prepare environment.resources.memory settings workspace = progress at kept
      cases kept <;> rfl

structure Opened.Accepted (environment : Environment) (arguments : List String)
    (workspace : Workspace) (opened : Opened) : Prop where
  read : settingsOf environment arguments = .ok opened.settings
  shown : logThreshold opened.settings.logLevel = .ok opened.least
  configured : Config.ofFields environment.resources.memory opened.settings.fields =
    .ok opened.config
  loaded : Extends opened.settings workspace opened.store

/-- How a run ends that ends before its generation and says why: with the help or with a usage text
while the options are read, or with two and a line in the log. -/
inductive Told (environment : Environment) (arguments : List String) (workspace : Workspace) :
    Outcome → Prop
  | help (asked : settingsOf environment arguments = .error .help) :
    Told environment arguments workspace
      { ending := .exited 0, output := help environment.program, errors := "", workspace }
  | usage {stop : Stop} (wrong : settingsOf environment arguments = .error stop)
      (fault : stop ≠ .help) :
    Told environment arguments workspace
      { ending := .exited 2
        output := ""
        errors := usage environment.program ++ environment.program ++ ": error: " ++
          stop.message ++ "\n"
        workspace }
  | line {settings : Settings} {least : Nat} {text : String}
      (read : settingsOf environment arguments = .ok settings)
      (shown : logThreshold settings.logLevel = .ok least)
      (why : Complaint environment.resources.memory settings workspace text) :
    Told environment arguments workspace
      { ending := .returned 2, output := "", errors := showLog least [failure text], workspace }

theorem told_stopped {stop : Stop} (stops : settingsOf environment arguments = .error stop) :
    Told environment arguments workspace (stopped environment.program workspace stop) := by
  cases stop with
  | help => exact .help stops
  | _ => exact .usage stops nofun

/-- Either nothing is overlooked, and the run goes on to its generation with all that is accepted or
ends and says why, or something is, and a fault escapes before anything is done. -/
theorem run_opening (environment : Environment) (arguments : List String) (workspace : Workspace) :
    (¬Overlooked environment arguments workspace ∧
      ((∃ opened, opening environment arguments workspace = .ok opened ∧
          opened.Accepted environment arguments workspace ∧
          run environment arguments workspace = proceed environment opened workspace) ∨
        Told environment arguments workspace (run environment arguments workspace))) ∨
    (Overlooked environment arguments workspace ∧
      ∃ escape, run environment arguments workspace =
        { ending := .escaped escape, output := "", errors := "", workspace }) := by
  rw [run_eq]
  cases parsed : settingsOf environment arguments with
  | error stop =>
    refine .inl ⟨?_, .inr ?_⟩
    · rintro ⟨settings, read, _⟩
      cases parsed.symm.trans read
    · simp only [opening, parsed]
      exact told_stopped parsed
  | ok settings =>
    have overlooked : Overlooked environment arguments workspace ↔
        ¬NamesLevel settings.logLevel ∨
          Unread environment.resources.memory settings workspace := by
      simp only [Overlooked, parsed, Except.ok.injEq, exists_eq_left']
    simp only [opening, parsed, overlooked]
    cases shown : logThreshold settings.logLevel with
    | error escape =>
      refine .inr ⟨.inl fun named => ?_, escape, rfl⟩
      obtain ⟨least, read⟩ := exists_logThreshold_iff.2 named
      cases shown.symm.trans read
    | ok least =>
      have named : NamesLevel settings.logLevel := exists_logThreshold_iff.1 ⟨least, shown⟩
      have kept : Prepared environment.resources.memory settings workspace
          (prepare environment.resources.memory settings workspace) :=
        prepared (isWord_seed parsed)
      generalize prepare environment.resources.memory settings workspace = progress at kept
      cases kept with
      | ready log configured loaded =>
        exact .inl ⟨fun either => either.elim (· named) (not_unread_of_extends loaded),
          .inl ⟨_, rfl, ⟨parsed, shown, configured, loaded⟩, rfl⟩⟩
      | told why =>
        exact .inl ⟨fun either => either.elim (· named) (not_unread_of_complaint why),
          .inr (.line parsed shown why)⟩
      | overlooked escape unread => exact .inr ⟨.inr unread, escape, rfl⟩

/-- A directory as the input: the run neither goes on nor says why. -/
theorem run_opening_directory :
    let environment : Environment :=
      { program := "grow", home := "/", logLevel := none, resources := .zero }
    let arguments := ["--nodes", "2", "--input", "dir"]
    let workspace := Workspace.ofFiles [] [["dir"]]
    ¬((∃ opened, opening environment arguments workspace = .ok opened) ∨
      Told environment arguments workspace (run environment arguments workspace)) := by
  intro environment arguments workspace
  have escaped : opening environment arguments workspace =
      .error { ending := .escaped (.load "dir" .directory), output := "", errors := ""
               workspace } := by
    subst environment arguments workspace
    rfl
  rw [run_eq, escaped]
  rintro (⟨opened, same⟩ | told)
  · cases same
  · cases told

-- A level that is set around the program and has no name.
example : (run { program := "grow", home := "/", logLevel := some "loud", resources := .zero }
    ["--nodes", "2"] (.ofFiles [] [])).ending = .escaped (.unknownLevel "LOUD") := rfl

end CommandLine

end TemporalNetwork
