import TemporalNetwork.CommandLine.Run

/-!
The stages of a run. A stage gives what the next one needs or ends the run, and none that ends it
ends it with zero. Main statement: a run that returns zero has gone through all its stages; what it
leaves behind is what the last one leaves, and it prints the summary.
-/

namespace TemporalNetwork.CommandLine

namespace Progress

variable {α β : Type}

/-- A stage ends well: it leaves a working directory and gives what the next stage needs. -/
def Gives (progress : Progress α) (after : Workspace) (value : α) : Prop :=
  progress.workspace = after ∧ progress.next = .ok value

/-- A stage that ends the run does not return zero. -/
def Honest (progress : Progress α) : Prop := progress.next ≠ .error (.returned 0)

theorem andThen_gives {progress : Progress α} {stage : Workspace → α → Progress β}
    {after : Workspace} {value : β} :
    (progress.andThen stage).Gives after value ↔
      ∃ between middle, progress.Gives between middle ∧
        (stage between middle).Gives after value := by
  rw [andThen]
  cases given : progress.next with
  | error ending => simp [Gives, given]
  | ok middle =>
    constructor
    · rintro ⟨left, next⟩
      exact ⟨progress.workspace, middle, ⟨rfl, given⟩, left, next⟩
    · rintro ⟨between, other, ⟨rfl, same⟩, left, next⟩
      rw [given, Except.ok.injEq] at same
      rw [same]
      exact ⟨left, next⟩

theorem andThen_assoc {γ : Type} (progress : Progress α) (first : Workspace → α → Progress β)
    (second : Workspace → β → Progress γ) :
    (progress.andThen first).andThen second =
      progress.andThen fun workspace value => (first workspace value).andThen second := by
  simp only [andThen]
  cases progress.next with
  | error ending => rfl
  | ok value =>
    simp only
    cases (first progress.workspace value).next with
    | error ending => rfl
    | ok middle => simp only [List.append_assoc]

-- A stage that only hands its value on can be left out.
@[simp] theorem done_andThen (workspace : Workspace) (value : α)
    (stage : Workspace → α → Progress β) :
    ({ log := [], workspace, next := .ok value } : Progress α).andThen stage =
      stage workspace value := rfl

theorem honest_andThen {progress : Progress α} {stage : Workspace → α → Progress β}
    (first : progress.Honest) (later : ∀ workspace value, (stage workspace value).Honest) :
    (progress.andThen stage).Honest := by
  rw [Honest, andThen]
  cases given : progress.next with
  | error ending =>
    intro zero
    have same : ending = .returned 0 := Except.error.inj zero
    exact first (same ▸ given)
  | ok value => exact later progress.workspace value

end Progress

variable {memory : Nat} {settings : Settings} {workspace after : Workspace} {store : Store}

/-! ## Each stage -/

theorem configure_gives {config : Config} :
    (configure memory settings workspace).Gives after config ↔
      after = workspace ∧ Config.ofFields memory settings.fields = .ok config := by
  rw [configure]
  split
  · next given => simp [Progress.Gives, given, eq_comm]
  · next given => simp [Progress.Gives, given]
  · next given => simp [Progress.Gives, given]

theorem honest_configure : (configure memory settings workspace).Honest := by
  rw [configure]
  split <;> simp [Progress.Honest]

theorem loadInput_gives :
    (loadInput settings workspace).Gives after store ↔
      after = workspace ∧
        match path? settings.input with
        | none => store = .empty
        | some path => GraphFile.load workspace path = .ok store := by
  rw [loadInput]
  cases path? settings.input with
  | none => simp [Progress.Gives, eq_comm]
  | some path =>
    simp only
    split
    · next given => simp [Progress.Gives, given, eq_comm]
    · next given => split <;> simp [Progress.Gives, given]

theorem honest_loadInput : (loadInput settings workspace).Honest := by
  rw [loadInput]
  split
  · simp [Progress.Honest]
  · split
    · simp [Progress.Honest]
    · split <;> simp [Progress.Honest]

theorem generateInto_gives {resources : Resources} {config : Config} {grown : Store}
    {summary : Summary} :
    (generateInto resources config workspace store).Gives after (grown, summary) ↔
      after = workspace ∧
        (Generation.generate resources .lenient (.ofStore store) config.request).result =
          .ok summary ∧
        (Generation.generate resources .lenient (.ofStore store) config.request).store.store =
          grown := by
  rw [generateInto]
  simp only [Progress.Gives]
  split <;> next given => simp [given, eq_comm, and_comm]

theorem honest_generateInto {resources : Resources} {config : Config} :
    (generateInto resources config workspace store).Honest := by
  simp only [generateInto, Progress.Honest]
  split <;> simp

theorem writeGraph_gives :
    (writeGraph settings store workspace).Gives after () ↔
      match path? settings.output with
      | none => after = workspace
      | some path => store.document.write.fault = none ∧
        workspace.write path store.document.write.bytes = .ok after := by
  rw [writeGraph]
  cases path? settings.output with
  | none => simp [Progress.Gives, eq_comm]
  | some path =>
    simp only
    split
    · next given => simp [Progress.Gives, given]
    · next given => split <;> next fault => simp [Progress.Gives, given, fault]

theorem honest_writeGraph : (writeGraph settings store workspace).Honest := by
  rw [writeGraph]
  split
  · simp [Progress.Honest]
  · simp only
    split
    · simp [Progress.Honest]
    · split <;> simp [Progress.Honest]

theorem writeEdges_gives {home : String} :
    (writeEdges home settings store workspace).Gives after () ↔
      match path? settings.edgesCsv with
      | none => after = workspace
      | some path => store.edgeCsv.fault = none ∧
        Destination.save home workspace path (Utf8.encode store.edgeCsv.text.toList) = .ok after := by
  rw [writeEdges]
  cases path? settings.edgesCsv with
  | none => simp [Progress.Gives, eq_comm]
  | some path =>
    simp only
    split
    · next given => simp [Progress.Gives, given]
    · next given => split <;> next whole => simp [Progress.Gives, given, whole]

theorem honest_writeEdges {home : String} : (writeEdges home settings store workspace).Honest := by
  rw [writeEdges]
  split
  · simp [Progress.Honest]
  · simp only
    split
    · simp [Progress.Honest]
    · split <;> simp [Progress.Honest]

/-! ## All stages -/

theorem perform_gives {environment : Environment} {summary : Summary} :
    (perform environment settings workspace).Gives after summary ↔
      ∃ config start grown between,
        (configure environment.resources.memory settings workspace).Gives workspace config ∧
        (loadInput settings workspace).Gives workspace start ∧
        (generateInto environment.resources config workspace start).Gives workspace
          (grown, summary) ∧
        (writeGraph settings grown workspace).Gives between () ∧
        (writeEdges environment.home settings grown between).Gives after () := by
  simp only [perform, Progress.andThen_gives, Prod.exists]
  constructor
  · rintro ⟨_, config, configured, _, start, loaded, _, grown, reported, generated, between, _,
      written, last, _, rest, rfl, same⟩
    obtain ⟨rfl, _⟩ := configure_gives.1 configured
    obtain ⟨rfl, _⟩ := loadInput_gives.1 loaded
    obtain ⟨rfl, _⟩ := generateInto_gives.1 generated
    cases same
    exact ⟨config, start, grown, between, configured, loaded, generated, written, rest⟩
  · rintro ⟨config, start, grown, between, configured, loaded, generated, written, rest⟩
    exact ⟨workspace, config, configured, workspace, start, loaded, workspace, grown, summary,
      generated, between, (), written, after, (), rest, rfl, rfl⟩

theorem honest_perform (environment : Environment) (settings : Settings) (workspace : Workspace) :
    (perform environment settings workspace).Honest :=
  Progress.honest_andThen honest_configure fun _ _ =>
  Progress.honest_andThen honest_loadInput fun _ _ =>
  Progress.honest_andThen honest_generateInto fun _ _ =>
  Progress.honest_andThen honest_writeGraph fun _ _ =>
  Progress.honest_andThen honest_writeEdges fun _ _ => by simp [Progress.Honest]

def Ending.code? : Ending → Option Nat
  | .returned code => some code
  | _ => none

theorem Ending.eq_returned {ending : Ending} {code : Nat} (returned : ending.code? = some code) :
    ending = .returned code := by
  cases ending with
  | returned own => rw [Option.some.inj returned]
  | _ => cases returned

/-- A run that returns zero has gone through all its stages, and prints the summary. -/
theorem run_returned {environment : Environment} {arguments : List String}
    (returned : (run environment arguments workspace).ending = .returned 0) :
    ∃ settings summary,
      parse (environment.logLevel.getD Level.info.name) arguments = .ok settings ∧
      (perform environment settings workspace).Gives
        (run environment arguments workspace).workspace summary ∧
      (run environment arguments workspace).output = summary.report ++ "\n" := by
  rw [run] at returned ⊢
  cases parsed : parse (environment.logLevel.getD Level.info.name) arguments with
  | error stop =>
    rw [parsed] at returned
    cases stop <;> cases returned
  | ok settings =>
    rw [parsed] at returned
    cases shown : logThreshold settings.logLevel with
    | error escape =>
      simp only [shown] at returned
      cases returned
    | ok least =>
      simp only [shown] at returned ⊢
      cases given : (perform environment settings workspace).next with
      | error ending =>
        rw [given] at returned
        have zero : ending = .returned 0 := returned
        exact absurd (zero ▸ given) (honest_perform environment settings workspace)
      | ok summary => exact ⟨settings, summary, rfl, ⟨rfl, given⟩, rfl⟩

end TemporalNetwork.CommandLine
