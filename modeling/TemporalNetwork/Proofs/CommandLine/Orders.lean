import TemporalNetwork.CommandLine.Run
import TemporalNetwork.Proofs.CommandLine.Options
import TemporalNetwork.Proofs.Config
import TemporalNetwork.Proofs.Generation.Insertions

/-!
Orders: how many nodes, with what probability and from what seed. Main statement: a command line
with the words of an order asks for the generation that the order asks for.
-/

namespace TemporalNetwork.CommandLine

/-- A number of nodes, a probability and a seed. -/
structure Order where
  count : Nat
  probability : Double
  seed : Seed

def Order.request (order : Order) : Generation.Request where
  count := .int order.count
  probability := .float order.probability
  seed := .bytes order.seed.bytes

theorem Order.asks (order : Order) :
    order.request.Asks order.count (.ofDouble order.probability) order.seed where
  count := rfl
  probability := rfl
  seed := by
    rw [request, Seed.coerce, Seed.ofBytes, dif_pos order.seed.length_eq]

structure Wording where
  nodes : String
  probability : String
  seed : String

structure Wording.Means (words : Wording) (order : Order) : Prop where
  count : readWhole? words.nodes = some (order.count : Int)
  probability : readDouble? words.probability = some order.probability
  seed : Config.seedOfText words.seed = .ok order.seed

/-- The command line of an order, with the file to begin with, if any, and the file to write. -/
def Wording.arguments (words : Wording) (input : Option String) (output : String) : List String :=
  (match input with
    | none => []
    | some path => ["--input", path]) ++
    ["--nodes", words.nodes, "--p", words.probability, "--seed", words.seed, "--output", output]

def Wording.options (words : Wording) (input : Option String) (output : String) :
    List (Flag × String) :=
  (match input with
    | none => []
    | some path => [(.input, path)]) ++
    [(.nodes, words.nodes), (.probability, words.probability), (.seed, words.seed),
      (.output, output)]

/-! ## Settings and configurations -/

theorem count_eq_ok {n : Int} {count : Nat} : Coercion.count (.int n) = .ok count ↔ n = count := by
  simp only [Coercion.count, Coercion.whole]
  split <;> simp <;> omega

theorem readSeed_eq_ok {memory : Nat} {word : String} {seed : Option Seed} :
    Config.readSeed memory (.text word) = .ok seed ↔
      ∃ own, Config.seedOfText word = .ok own ∧ seed = some own := by
  rw [Config.readSeed]
  cases Config.seedOfText word <;> simp [Except.map, eq_comm]

theorem config_of_fields {memory : Nat} {settings : Settings} {config : Config}
    (configured : Config.ofFields memory settings.fields = .ok config) :
    Coercion.count settings.nodes = .ok config.count ∧
      Coercion.number settings.probability = .ok config.probability ∧
      Config.readSeed memory settings.seed = .ok config.seed := by
  obtain ⟨count, probability, seed⟩ := Config.readings_of_ofFields configured
  obtain ⟨input, found, count⟩ := Fields.required_eq_ok.1 count
  have same : settings.nodes = input := Option.some.inj found
  exact ⟨same ▸ count, (Fields.optional_eq_ok rfl).1 probability,
    (Fields.optional_eq_ok rfl).1 seed⟩

section Reading

variable {memory : Nat} {words : Wording} {input : Option String} {output : String}

theorem arguments_eq_spell : words.arguments input output = spell (words.options input output) := by
  cases input <;> rfl

structure Settings.Of (settings : Settings) (words : Wording) (input : Option String)
    (output : String) : Prop where
  nodes : ∃ n, readWhole? words.nodes = some n ∧ settings.nodes = .int n
  probability : ∃ x, readDouble? words.probability = some x ∧ settings.probability = .float x
  seed : settings.seed = .text words.seed
  input : settings.input = (input.map fun path => .text (.whole path)).getD .none
  output : settings.output = .text output
  edgesCsv : settings.edgesCsv = .none

theorem of_setAll {initial settings : Settings}
    (read : initial.setAll [(.nodes, words.nodes), (.probability, words.probability),
      (.seed, words.seed), (.output, output)] = .ok settings)
    (given : initial.input = (input.map fun path => .text (.whole path)).getD .none)
    (edgesCsv : initial.edgesCsv = .none) : settings.Of words input output := by
  simp only [Settings.setAll_cons_eq_ok, Settings.setAll_nil_eq_ok] at read
  obtain ⟨count, nodes, probability, number, seed, seedWord, path, outputWord, rfl⟩ := read
  simp only [readSetting] at nodes number seedWord outputWord
  cases seedWord
  cases outputWord
  split at nodes
  · next n whole =>
    cases nodes
    split at number
    · next x double =>
      cases number
      exact ⟨⟨n, whole, rfl⟩, ⟨x, double, rfl⟩, rfl, given, rfl, edgesCsv⟩
    · cases number
  · cases nodes

theorem settings_of_parse {level : String} {settings : Settings}
    (parsed : parse level (words.arguments input output) = .ok settings) :
    settings.Of words input output := by
  rw [arguments_eq_spell] at parsed
  have read := setAll_of_parse parsed
  cases input with
  | none => exact of_setAll read rfl rfl
  | some path =>
    obtain ⟨value, own, further⟩ := Settings.setAll_cons_eq_ok.1 read
    cases own
    exact of_setAll further rfl rfl

theorem order_of_config {settings : Settings} (own : settings.Of words input output)
    {config : Config} (configured : Config.ofFields memory settings.fields = .ok config) :
    ∃ order : Order, words.Means order ∧ config.request = order.request := by
  obtain ⟨n, whole, nodes⟩ := own.nodes
  obtain ⟨x, double, probability⟩ := own.probability
  obtain ⟨count, number, seed⟩ := config_of_fields configured
  rw [nodes, count_eq_ok] at count
  rw [probability] at number
  cases number
  rw [own.seed, readSeed_eq_ok] at seed
  obtain ⟨bytes, spelled, given⟩ := seed
  refine ⟨⟨config.count, config.probability, bytes⟩, ⟨count ▸ whole, double, spelled⟩, ?_⟩
  rw [Config.request, given]
  rfl

end Reading

end TemporalNetwork.CommandLine
