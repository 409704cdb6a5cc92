import TemporalNetwork.Config

/-!
What an accepted configuration says. Its parts are readings of the fields, each of the right type, so
what it asks of a generation has arguments that a generation can read.
-/

namespace TemporalNetwork

namespace Fields

variable {α : Type} {fields : Fields} {name : String} {input : Value}
variable {read : Value → Except Coercion.Fault α}

theorem mapError_eq_ok {value : α} {name : Coercion.Fault → List FieldFault} :
    (read input).mapError name = .ok value ↔ read input = .ok value := by
  constructor
  · intro passed
    cases own : read input with
    | error fault =>
      rw [own] at passed
      cases passed
    | ok found =>
      rw [own] at passed
      cases passed
      rfl
  · intro own
    rw [own]
    rfl

theorem optional_eq_ok {default value : α} (found : fields.find? name = some input) :
    fields.optional name default read = .ok value ↔ read input = .ok value := by
  rw [optional, found]
  exact mapError_eq_ok

theorem required_eq_ok {value : α} :
    fields.required name read = .ok value ↔
      ∃ input, fields.find? name = some input ∧ read input = .ok value := by
  rw [required]
  cases fields.find? name with
  | none => simp
  | some input => simp [mapError_eq_ok]

end Fields

namespace Config

variable {memory : Nat} {fields : Fields} {config : Config}

/-- The parts of a configuration are what its fields are read as. -/
theorem readings_of_ofFields (configured : ofFields memory fields = .ok config) :
    fields.required "n_nodes" Coercion.count = .ok config.count ∧
      fields.optional "p" Generation.evenProbability Coercion.number = .ok config.probability ∧
      fields.optional "seed" none (readSeed memory) = .ok config.seed := by
  rw [ofFields] at configured
  split at configured
  · cases configured
  · cases checked : check memory fields with
    | error faults =>
      rw [checked] at configured
      cases configured
    | ok read =>
      rw [checked] at configured
      cases configured
      rw [check] at checked
      simp only at checked
      generalize all : Checked.and _ _ = parts at checked
      cases parts with
      | error faults => cases checked
      | ok values =>
        obtain ⟨generator, count, probability, seed⟩ := values
        cases checked
        simp only [Checked.and_eq_ok] at all
        exact all.2

/-! ## Asking for a generation -/

open Generation

theorem requestedCount_request (config : Config) :
    requestedCount config.request.count = .ok config.count := by
  have nonnegative : ¬(config.count : Int) < 0 := by omega
  simp only [request, requestedCount, if_neg nonnegative, Int.toNat_natCast]

theorem probability_request (config : Config) :
    Probability.ofValue config.request.probability = .ok (.ofDouble config.probability) := rfl

theorem source_request (config : Config) (resources : Resources) :
    Source.ofValue resources config.request.seed =
      .ok ((config.seed.map Source.ofSeed).getD (.ofEntropy resources.entropy)) := by
  rw [request]
  cases config.seed with
  | none => rfl
  | some seed =>
    have read : Seed.coerce resources.memory (.bytes seed.bytes) = .ok seed := by
      rw [Seed.coerce, Seed.ofBytes, dif_pos seed.length_eq]
    simp only [Source.ofValue, read]
    rfl

end Config

end TemporalNetwork
