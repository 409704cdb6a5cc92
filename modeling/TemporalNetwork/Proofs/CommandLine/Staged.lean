import TemporalNetwork.Proofs.CommandLine.Orders
import TemporalNetwork.Proofs.CommandLine.Stages
import TemporalNetwork.Proofs.GraphFile.Portable

/-!
Runs that go on where another run stopped. All that a run hands to the next one is the file that it
writes, and of a portable graph the file holds everything. Main statement: a run on the file of
another one writes and prints what it would if the graph had been kept and both generations had been
made on it.
-/

namespace TemporalNetwork.CommandLine

open Generation

/-! ## One run -/

inductive Starts (workspace : Workspace) : Option String → Store → Prop
  | empty : Starts workspace none .empty
  | file {path : String} {store : Store} (loaded : GraphFile.load workspace path = .ok store) :
    Starts workspace (some path) store

-- The path of a file that is there is not empty.
theorem Starts.gives {workspace : Workspace} {input : Option String} {start store : Store}
    (starts : Starts workspace input start) {settings : Settings}
    (given : settings.input = (input.map fun path => .text (.whole path)).getD .none)
    (loaded : (loadInput settings workspace).Gives workspace store) : store = start := by
  obtain ⟨_, loaded⟩ := loadInput_gives.1 loaded
  rw [given] at loaded
  cases starts with
  | empty => exact loaded
  | @file path _ found =>
    have named : path ≠ "" := by
      rintro rfl
      cases found
    simp only [Option.map_some, Option.getD_some, path?, if_neg named, found,
      Except.ok.injEq] at loaded
    exact loaded.symm

variable {environment : Environment} {workspace : Workspace} {words : Wording}
  {input : Option String} {output : String} {start : Store}

/-- What a run that returns zero leaves behind, if it begins with a portable graph. -/
structure Delivers (outcome : Outcome) (output : String) (start : Store) (order : Order)
    (grown : Store) (summary : Summary) : Prop where
  portable : grown.Portable
  /-- The generation, however it is logged, and whatever else there is to draw from. -/
  generated : ∀ resources logging,
    (generate resources logging (.ofStore start) order.request).store = .ofStore grown ∧
      (generate resources logging (.ofStore start) order.request).result = .ok summary
  whole : grown.document.write.fault = none
  written : outcome.workspace.read output = .ok grown.document.write.bytes
  printed : outcome.output = summary.report ++ "\n"

theorem run_delivers (starts : Starts workspace input start) (portable : start.Portable)
    (named : output ≠ "")
    (returned : (run environment (words.arguments input output) workspace).ending = .returned 0) :
    ∃ order grown summary, words.Means order ∧
      Delivers (run environment (words.arguments input output) workspace) output start order grown
        summary := by
  obtain ⟨settings, summary, parsed, performed, printed⟩ := run_returned returned
  have own := settings_of_parse parsed
  obtain ⟨config, store, grown, between, configured, loaded, generated, written, listed⟩ :=
    perform_gives.1 performed
  obtain rfl := starts.gives own.input loaded
  obtain ⟨order, means, asked⟩ := order_of_config own (configure_gives.1 configured).2
  -- The run generates once, and every other generation of the order agrees with this one.
  obtain ⟨_, result, became⟩ := generateInto_gives.1 generated
  rw [asked] at result became
  obtain ⟨after, kept, stored⟩ := portable.generate order.asks environment.resources
  obtain rfl : after = grown := by rw [← became, stored]; rfl
  have wrote := writeGraph_gives.1 written
  simp only [own.output, path?, if_neg named] at wrote
  obtain ⟨whole, put⟩ := wrote
  have left := writeEdges_gives.1 listed
  simp only [own.edgesCsv, path?] at left
  refine ⟨order, after, summary, means, kept, fun resources logging => ?_, whole, ?_, printed⟩
  · rw [portable.generate_eq order.asks rfl stored kept whole resources logging]
    exact ⟨stored, result⟩
  · rw [left]
    exact Workspace.read_write put

theorem Delivers.starts {outcome : Outcome} {order : Order} {grown : Store} {summary : Summary}
    (delivers : Delivers outcome output start order grown summary) :
    Starts outcome.workspace (some output) grown := by
  refine .file ?_
  rw [GraphFile.load, delivers.written]
  exact GraphFile.ofBytes_portable delivers.portable delivers.whole

/-! ## Two runs -/

/-- The graph of a base: none, or a file whose nodes have no types or texts for them. -/
inductive Based (workspace : Workspace) : Option String → Store → Prop
  | nothing : Based workspace none .empty
  | file {path : String} {content : List UInt8} {text : List Char} {json : Json} {store : Store}
    (found : workspace.read path = .ok content) (decoded : Utf8.decode content = .ok text)
    (parsed : Json.parse (Utf8.universalNewlines text) = .ok json)
    (typed : ∀ entry ∈ GraphFile.entries json .nodes, GraphFile.Typed entry)
    (loaded : GraphFile.load workspace path = .ok store) : Based workspace (some path) store

theorem Based.starts {base : Option String} (based : Based workspace base start) :
    Starts workspace base start := by
  cases based with
  | nothing => exact .empty
  | file _ _ _ _ loaded => exact .file loaded

theorem Based.portable {base : Option String} (based : Based workspace base start) :
    start.Portable := by
  cases based with
  | nothing => exact Store.portable_empty
  | file found decoded parsed typed loaded =>
    rw [GraphFile.load, found] at loaded
    exact GraphFile.portable_ofBytes decoded parsed typed loaded

/-- Two runs, the second on the file that the first one wrote, are two generations on one graph. The
last file is the one that is saved of this graph, and the last summary is that of the second
generation. An empty word for a path names no file. -/
theorem run_staged {environment later : Environment} {workspace : Workspace}
    {base : Option String} {start : Store} (based : Based workspace base start)
    {one two : Wording} {file last : String} (fileNamed : file ≠ "") (lastNamed : last ≠ "")
    (returned : (run environment (one.arguments base file) workspace).ending = .returned 0)
    (again : (run later (two.arguments (some file) last)
      (run environment (one.arguments base file) workspace).workspace).ending = .returned 0) :
    let outcome := run later (two.arguments (some file) last)
      (run environment (one.arguments base file) workspace).workspace
    ∃ first second : Order, one.Means first ∧ two.Means second ∧ ∀ resources other logging,
      let once := generate resources logging (.ofStore start) first.request
      let twice := generate other logging once.store second.request
      let written := twice.store.store.document.write
      ∃ before summary, once.result = .ok before ∧ twice.result = .ok summary ∧
        written.fault = none ∧ outcome.workspace.read last = .ok written.bytes ∧
        outcome.output = summary.report ++ "\n" := by
  intro outcome
  obtain ⟨first, grown, before, firstMeans, delivered⟩ :=
    run_delivers based.starts based.portable fileNamed returned
  obtain ⟨second, final, summary, secondMeans, ended⟩ :=
    run_delivers delivered.starts delivered.portable lastNamed again
  refine ⟨first, second, firstMeans, secondMeans, fun resources other logging => ?_⟩
  intro once twice written
  obtain ⟨kept, told⟩ := delivered.generated resources logging
  have same : twice = generate other logging (.ofStore grown) second.request := by
    rw [← kept]
  obtain ⟨stored, reported⟩ := ended.generated other logging
  rw [← same] at stored reported
  have saved : written = final.document.write := by
    simp only [written, stored]
    rfl
  rw [saved]
  exact ⟨before, summary, told, reported, ended.whole, ended.written, ended.printed⟩

/-- Two nodes and then one more, beside a node with a type from a file, and all of them linked. The
name of that node is half of a pair. -/
theorem run_staged_beside_hub :
    let environment : Environment :=
      { program := "generate", home := "/", logLevel := none, resources := .zero }
    let hub : NodeUpdate :=
      { time := .int 3, id := .text (.broken [] ⟨0⟩ []), properties := .none, type := .text "hub" }
    let start := (Store.empty.addNode hub).1
    let workspace : Workspace := .ofFiles [(["g.json"], start.document.write.bytes)] []
    let seed := "0000000000000000000000000000000000000000000000000000000000000000"
    let one : Wording := { nodes := "2", probability := "inf", seed }
    let two : Wording := { nodes := "1", probability := "inf", seed }
    (Based workspace (some "g.json") start ∧ ("f.json" ≠ "" ∧ "h.json" ≠ "") ∧
      (run environment (one.arguments (some "g.json") "f.json") workspace).ending = .returned 0 ∧
      (run environment (two.arguments (some "f.json") "h.json")
        (run environment (one.arguments (some "g.json") "f.json") workspace).workspace).ending =
          .returned 0) ∧
      ∃ first second : Order, one.Means first ∧ two.Means second ∧ ∀ resources other logging,
        let once := generate resources logging (.ofStore start) first.request
        let twice := generate other logging once.store second.request
        let written := twice.store.store.document.write
        ∃ before summary, once.result = .ok before ∧ twice.result = .ok summary ∧
          written.fault = none ∧
          (run environment (two.arguments (some "f.json") "h.json")
            (run environment (one.arguments (some "g.json") "f.json")
              workspace).workspace).workspace.read "h.json" = .ok written.bytes ∧
          (run environment (two.arguments (some "f.json") "h.json")
            (run environment (one.arguments (some "g.json") "f.json")
              workspace).workspace).output = summary.report ++ "\n" := by
  intro environment hub start workspace seed one two
  have reached : Reachable Value.IsPlain start := .call .empty (.node hub) (.inl rfl)
  have valid := reached.wellFormed
  have writable : start.Writable := by
    constructor
    · exact List.forall_mem_singleton.2 (.inr ⟨"hub", rfl⟩)
    · exact List.forall_mem_singleton.2 rfl
    · exact List.forall_mem_singleton.2
        (List.forall_mem_singleton.2 (Decimal.fits_of_lt (by decide)))
    · exact nofun
  have free : start.PairFree := by
    constructor
    · intro t known
      cases List.mem_singleton.1 known
      exact .singleton _
    · rintro node member t own
      obtain rfl := List.mem_singleton.1 member
      cases own
      exact Json.pairFree_whole "hub"
  have based : Based workspace (some "g.json") start := by
    obtain ⟨decoded, parsed⟩ := GraphFile.parse_written valid writable free
    refine .file rfl decoded parsed ?_ ?_
    · refine List.forall_mem_singleton.2 fun found member => ?_
      cases member
      exact .inr ⟨"hub", rfl⟩
    · rw [GraphFile.load, show workspace.read "g.json" = .ok start.document.write.bytes from rfl]
      exact GraphFile.ofBytes_written reached writable free
  have named : "f.json" ≠ "" ∧ "h.json" ≠ "" := by decide
  have returned : (run environment (one.arguments (some "g.json") "f.json") workspace).ending =
      .returned 0 := by
    apply Ending.eq_returned
    decide +kernel
  have again : (run environment (two.arguments (some "f.json") "h.json")
      (run environment (one.arguments (some "g.json") "f.json") workspace).workspace).ending =
        .returned 0 := by
    apply Ending.eq_returned
    decide +kernel
  exact ⟨⟨based, named, returned, again⟩, run_staged based named.1 named.2 returned again⟩

end TemporalNetwork.CommandLine
