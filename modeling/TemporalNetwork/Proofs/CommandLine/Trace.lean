import TemporalNetwork.Proofs.CommandLine.Opening
import TemporalNetwork.Proofs.GraphFile.Format

/-!
Runs that fail without a trace. A run returns two, or ends while the options are read, before it has
touched the working directory: from the generation on, whatever goes wrong escapes. Main statement:
such a run leaves the working directory as it was, and if it returns two it has printed nothing; an
input that leads nowhere, or to a file that is no graph, makes it return two.
-/

namespace TemporalNetwork

/-! ## Inputs that are refused -/

namespace GraphFile

/-- Content that is a graph: it is text, the text is JSON, and the JSON has the format. -/
def Acceptable (content : List UInt8) : Prop :=
  ∃ text json, Utf8.decode content = .ok text ∧
    Json.parse (Utf8.universalNewlines text) = .ok json ∧ Format json

/-- A path that leads nowhere, or to a file that is no graph although its brackets are not nested too
deep for the reader. -/
inductive Refused (workspace : Workspace) (path : String) : Prop
  | nothing {fault : Workspace.PathFault} (missed : workspace.find path = .error fault)
  | content {content : List UInt8} (found : workspace.find path = .ok (.file content))
      (shallow : ∀ text, Utf8.decode content = .ok text →
        Json.nesting (Utf8.universalNewlines text) ≤ Json.nestingLimit)
      (wrong : ¬Acceptable content)

theorem acceptable_of_ofBytes {content : List UInt8} {store : Store}
    (loaded : ofBytes content = .ok store) : Acceptable content := by
  cases decoded : Utf8.decode content with
  | error error => simp [ofBytes, decoded] at loaded
  | ok text =>
    cases parsed : Json.parse (Utf8.universalNewlines text) with
    | error error => simp [ofBytes, decoded, parse, parsed] at loaded
    | ok json =>
      obtain ⟨outline, done⟩ := (ofBytes_eq_ok decoded parsed).1 loaded
      have suits := (Store.performEach_empty_iff (plain_outlined json)).1 ⟨store, done⟩
      exact ⟨text, json, decoded, parsed, (format_iff outline).2 suits⟩

theorem isReported_of_ofContent {fault : LoadFault} (content : fault.OfContent) :
    CommandLine.isReported fault = true := by
  cases fault with
  | json text error =>
    cases error with
    | tooDeep container => exact absurd rfl (content container)
    | _ => rfl
  | notFound => exact content.elim
  | directory => exact content.elim
  | _ => rfl

theorem Refused.load_error {workspace : Workspace} {path : String}
    (refused : Refused workspace path) :
    ∃ fault, load workspace path = .error fault ∧ CommandLine.isReported fault = true := by
  cases refused with
  | @nothing fault missed =>
    have read : workspace.read path = .error fault := by rw [Workspace.read, missed]
    refine ⟨.notFound, ?_, rfl⟩
    rw [load, read]
    cases fault with
    | directory => exact absurd missed (Workspace.find_ne_directory workspace path)
    | _ => rfl
  | @content content found shallow wrong =>
    have read : workspace.read path = .ok content := by rw [Workspace.read, found]
    have loaded : load workspace path = ofBytes content := by rw [load, read]
    rw [loaded]
    cases answer : ofBytes content with
    | ok store => exact absurd (acceptable_of_ofBytes answer) wrong
    | error fault => exact ⟨fault, rfl, isReported_of_ofContent (ofBytes_error shallow answer)⟩

end GraphFile

namespace CommandLine

/-! ## From the generation on -/

namespace Progress

variable {α β : Type}

def Escapes (progress : Progress α) : Prop :=
  (∃ value, progress.next = .ok value) ∨ ∃ escape, progress.next = .error (.escaped escape)

theorem escapes_andThen {progress : Progress α} {stage : Workspace → α → Progress β}
    (first : progress.Escapes) (later : ∀ workspace value, (stage workspace value).Escapes) :
    (progress.andThen stage).Escapes := by
  rcases first with ⟨value, given⟩ | ⟨escape, given⟩
  · have rest := later progress.workspace value
    simpa only [Escapes, andThen, given] using rest
  · exact .inr ⟨escape, by simp only [andThen, given]⟩

end Progress

variable {environment : Environment} {arguments : List String} {workspace : Workspace}
variable {settings : Settings} {store : Store}

theorem escapes_generateInto {resources : Resources} {config : Config} :
    (generateInto resources config workspace store).Escapes := by
  simp only [generateInto, Progress.Escapes]
  split
  · exact .inl ⟨_, rfl⟩
  · exact .inr ⟨_, rfl⟩

theorem escapes_writeGraph : (writeGraph settings store workspace).Escapes := by
  rw [writeGraph]
  split
  · exact .inl ⟨_, rfl⟩
  · simp only
    split
    · exact .inr ⟨_, rfl⟩
    · split
      · exact .inr ⟨_, rfl⟩
      · exact .inl ⟨_, rfl⟩

theorem escapes_writeEdges {home : String} :
    (writeEdges home settings store workspace).Escapes := by
  rw [writeEdges]
  split
  · exact .inl ⟨_, rfl⟩
  · simp only
    split
    · exact .inr ⟨_, rfl⟩
    · split
      · exact .inr ⟨_, rfl⟩
      · exact .inl ⟨_, rfl⟩

theorem escapes_complete (environment : Environment) (settings : Settings) (workspace : Workspace)
    (start : Config × Store) : (complete environment settings workspace start).Escapes :=
  Progress.escapes_andThen escapes_generateInto fun _ _ =>
  Progress.escapes_andThen escapes_writeGraph fun _ _ =>
  Progress.escapes_andThen escapes_writeEdges fun _ _ => .inl ⟨_, rfl⟩

/-! ## The whole -/

-- A run that goes on to its generation returns zero, or a fault escapes.
theorem proceed_ending (environment : Environment) (opened : Opened) (workspace : Workspace) :
    (proceed environment opened workspace).ending = .returned 0 ∨
      ∃ escape, (proceed environment opened workspace).ending = .escaped escape := by
  rcases escapes_complete environment opened.settings workspace (opened.config, opened.store) with
    ⟨summary, given⟩ | ⟨escape, given⟩
  · exact .inl (by simp only [proceed, given])
  · exact .inr ⟨escape, by simp only [proceed, given]⟩

-- Nothing has been touched when the options, the configuration or the input end a run.
theorem opening_traceless {outcome : Outcome}
    (ended : opening environment arguments workspace = .error outcome) :
    outcome.workspace = workspace ∧ (outcome.ending = .returned 2 → outcome.output = "") := by
  rw [opening] at ended
  cases parsed : settingsOf environment arguments with
  | error stop =>
    rw [parsed] at ended
    cases ended
    cases stop <;> exact ⟨rfl, fun two => by cases two⟩
  | ok settings =>
    simp only [parsed] at ended
    cases shown : logThreshold settings.logLevel with
    | error escape =>
      simp only [shown] at ended
      cases ended
      exact ⟨rfl, fun two => by cases two⟩
    | ok least =>
      simp only [shown] at ended
      cases given : (prepare environment.resources.memory settings workspace).next with
      | error ending =>
        simp only [given] at ended
        cases ended
        exact ⟨rfl, fun _ => rfl⟩
      | ok start =>
        simp only [given] at ended
        cases ended

theorem opening_refused {path : String} (read : settingsOf environment arguments = .ok settings)
    (named : NamesLevel settings.logLevel) (input : path? settings.input = some path)
    (refused : GraphFile.Refused workspace path) :
    ∃ outcome, opening environment arguments workspace = .error outcome ∧
      outcome.ending = .returned 2 := by
  obtain ⟨fault, failed, reported⟩ := refused.load_error
  obtain ⟨least, shown⟩ := exists_logThreshold_iff.2 named
  have kept : Prepared environment.resources.memory settings workspace
      (prepare environment.resources.memory settings workspace) := prepared (isWord_seed read)
  simp only [opening, read, shown]
  generalize prepare environment.resources.memory settings workspace = progress at kept
  cases kept with
  | ready log configured loaded =>
    rw [Extends, input] at loaded
    cases failed.symm.trans loaded
  | told why => exact ⟨_, rfl, rfl⟩
  | overlooked escape unread =>
    obtain ⟨own, cause, same, again, unreported⟩ := unread.exists_fault
    cases input.symm.trans same
    cases failed.symm.trans again
    cases reported.symm.trans unreported

/-- A run that fails by itself leaves no trace: if it returns two or ends while its options are read,
the working directory is as it was, whatever paths were named, and if it returns two it has printed
nothing. With options that can be read and a level that is one, every path of an input that is
refused makes the run return two; an empty path is not taken for one. -/
theorem run_traceless (environment : Environment) (arguments : List String)
    (workspace : Workspace) :
    let outcome := run environment arguments workspace
    (outcome.ending = .returned 2 ∨ (∃ code, outcome.ending = .exited code) →
        outcome.workspace = workspace) ∧
      (outcome.ending = .returned 2 → outcome.output = "") ∧
      ∀ settings (path : String), settingsOf environment arguments = .ok settings →
        NamesLevel settings.logLevel → settings.input = .text path → path ≠ "" →
        GraphFile.Refused workspace path → outcome.ending = .returned 2 := by
  intro outcome
  have ran : outcome = _ := run_eq environment arguments workspace
  cases opened : opening environment arguments workspace with
  | error stopped =>
    have same : outcome = stopped := by rw [ran, opened]
    obtain ⟨untouched, silent⟩ := opening_traceless opened
    rw [same]
    refine ⟨fun _ => untouched, silent, ?_⟩
    intro settings path read named input filled refused
    have given : path? settings.input = some path := by rw [input, path?, if_neg filled]
    obtain ⟨own, ended, code⟩ := opening_refused read named given refused
    cases opened.symm.trans ended
    exact code
  | ok start =>
    have same : outcome = proceed environment start workspace := by rw [ran, opened]
    have ending := proceed_ending environment start workspace
    rw [same]
    refine ⟨?_, ?_, ?_⟩
    · rintro (two | ⟨code, exited⟩)
      · simp [two] at ending
      · simp [exited] at ending
    · intro two
      simp [two] at ending
    · intro settings path read named input filled refused
      have given : path? settings.input = some path := by rw [input, path?, if_neg filled]
      obtain ⟨own, ended, _⟩ := opening_refused read named given refused
      cases opened.symm.trans ended

/-- A file whose second node has an id of another kind, named as the input and as the output. -/
theorem run_traceless_mixed_ids :
    let environment : Environment :=
      { program := "grow", home := "/", logLevel := none, resources := .zero }
    let arguments := ["--nodes", "2", "--input", "g.json", "--output", "g.json"]
    let json : Json := .object [
      ("nodes", .array [
        .object [("id", .int 0), ("time", .int 3)],
        .object [("id", .string "a"), ("time", .int 4)]])]
    let content := Utf8.encode (json.render .file 0)
    let workspace := Workspace.ofFiles [(["g.json"], content)] []
    let outcome := run environment arguments workspace
    ∃ settings, (settingsOf environment arguments = .ok settings ∧
        NamesLevel settings.logLevel ∧ settings.input = .text "g.json" ∧
        GraphFile.Refused workspace "g.json") ∧
      outcome.ending = .returned 2 ∧ outcome.workspace = workspace ∧ outcome.output = "" := by
  intro environment arguments json content workspace outcome
  have plain : json.IsPlain := by
    simp [json, Json.IsPlain, Json.ArePlain, Json.FieldsArePlain, Decimal.fits_of_lt]
  have free : json.IsPairFree := by
    simp [json, Json.IsPairFree, Json.ArePairFree, Json.FieldsArePairFree]
  have ascii := Json.ascii_render json plain 0
  have decoded : Utf8.decode content = .ok (json.render .file 0) := Utf8.decode_encode_ascii ascii
  have lines := Utf8.universalNewlines_ascii ascii
  have parsed : Json.parse (json.render .file 0) = .ok json :=
    Json.parse_render Json.reads_file plain free (by decide)
  have listed : GraphFile.idsIn json = [.int 0, .string "a"] := rfl
  have refused : GraphFile.Refused workspace "g.json" := by
    have found : workspace.find "g.json" = .ok (.file content) := rfl
    apply GraphFile.Refused.content found
    · intro text same
      rw [decoded, Except.ok.injEq] at same
      rw [← same, lines]
      decide +kernel
    · rintro ⟨text, own, same, read, format⟩
      rw [decoded, Except.ok.injEq] at same
      rw [← same, lines, parsed, Except.ok.injEq] at read
      have ids := format.ids
      rw [← read, listed] at ids
      simp at ids
  have named : NamesLevel (.text "INFO") := ⟨"INFO", rfl, by decide⟩
  obtain ⟨untouched, silent, rejects⟩ := run_traceless environment arguments workspace
  have two := rejects _ "g.json" rfl named rfl (by decide) refused
  exact ⟨_, ⟨rfl, named, rfl, refused⟩, two, untouched (.inl two), silent two⟩

/-- An empty path as the input leads nowhere, but the run takes it for no input and returns zero. -/
theorem run_traceless_empty_input :
    let environment : Environment :=
      { program := "grow", home := "/", logLevel := none, resources := .zero }
    let arguments := ["--nodes", "0", "--input", ""]
    let workspace := Workspace.ofFiles [] []
    ¬∀ settings config (path : String), settingsOf environment arguments = .ok settings →
        NamesLevel settings.logLevel →
        Config.ofFields environment.resources.memory settings.fields = .ok config →
        settings.input = .text path → GraphFile.Refused workspace path →
        (run environment arguments workspace).ending = .returned 2 := by
  intro environment arguments workspace always
  have named : NamesLevel (.text "INFO") := ⟨"INFO", rfl, by decide⟩
  have zero : (run environment arguments workspace).ending = .returned 0 :=
    Ending.eq_returned (by decide +kernel)
  have two := always _ _ "" rfl named rfl rfl (.nothing rfl)
  cases zero.symm.trans two

end CommandLine

end TemporalNetwork
