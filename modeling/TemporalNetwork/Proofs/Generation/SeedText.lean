import TemporalNetwork.Proofs.Config
import TemporalNetwork.Proofs.Generation.Insertions
import TemporalNetwork.Proofs.Seed.Forms
import TemporalNetwork.Proofs.Seed.HexText

/-!
Configurations whose seed is a text. The text goes through two checks, of its pairs of digits and of
the number of its bytes. Main statement: a configuration is read exactly from the texts that spell
thirty-two bytes, with these for its seed, and its generations are those of the bytes themselves; any
other text is a fault of the field.
-/

namespace TemporalNetwork

namespace Config

/-- Fields that ask for no new node and give a text for the seed. -/
def seedFields (t : Text) : Fields := [("n_nodes", .int 0), ("seed", .text t)]

def ofSeed (seed : Seed) : Config where
  generator := Generator.erdosRenyi.name
  count := 0
  probability := Generation.evenProbability
  seed := some seed

theorem seedOfText_eq_ok {t : Text} {seed : Seed} :
    seedOfText t = .ok seed ↔ Hex.Spelled t seed.bytes := by
  rw [← Hex.decode_eq_ok, seedOfText]
  cases Hex.decode t with
  | error position => simp
  | ok content =>
    rw [Except.ok.injEq, ← Seed.ofBytes_eq_ok]
    cases sized : Seed.ofBytes content <;> simp [sized, Except.mapError]

theorem exists_message_of_seedOfText {t : Text} {fault : Coercion.Fault}
    (failed : seedOfText t = .error fault) : ∃ message, fault = .refused message := by
  rw [seedOfText] at failed
  split at failed
  · cases failed
    exact ⟨_, rfl⟩
  · next content _ =>
    cases sized : Seed.ofBytes content with
    | error cause =>
      rw [sized] at failed
      cases failed
      exact ⟨_, rfl⟩
    | ok seed =>
      rw [sized] at failed
      cases failed

theorem ofFields_seedFields (memory : Nat) (t : Text) :
    ofFields memory (seedFields t) =
      ((seedOfText t).map ofSeed).mapError fun fault =>
        .fields [{ field := "seed", fault, input := .text t }] := by
  have given : (seedFields t).find? "seed" = some (.text t) := by rfl
  have counted : (seedFields t).required "n_nodes" Coercion.count = .ok 0 := by rfl
  have named : (seedFields t).optional "generator" Generator.erdosRenyi.name Coercion.text =
      .ok Generator.erdosRenyi.name := by rfl
  have even : (seedFields t).optional "p" Generation.evenProbability Coercion.number =
      .ok Generation.evenProbability := by rfl
  have sized : seedSizeFault? memory (seedFields t) = none := by
    rw [seedSizeFault?, given]
    rfl
  rw [ofFields, sized]
  simp only [check, counted, named, even]
  rw [Fields.optional, given]
  simp only [readSeed]
  cases seedOfText t <;> rfl

end Config

namespace Generation

theorem generate_congr {request other : Request} {n : Nat} {p : Probability} {seed : Seed}
    (asks : request.Asks n p seed) (also : other.Asks n p seed)
    (told : request.probability = other.probability) (resources : Resources) (logging : Logging)
    (guarded : GuardedStore) :
    generate resources logging guarded request = generate resources logging guarded other := by
  have same : run resources logging guarded request = run resources logging guarded other := by
    rw [run_eq_populate asks, run_eq_populate also]
  rw [generate, generate, same, told]

theorem asks_of_form {seed : Seed} {value : Value} (form : Seed.Form value seed.bytes)
    (n : Nat) (p : Double) :
    Request.Asks { count := .int n, probability := .float p, seed := value } n (.ofDouble p)
      seed where
  count := by
    have whole : ¬(n : Int) < 0 := by omega
    simp only [requestedCount, if_neg whole, Int.toNat_natCast]
  probability := rfl
  seed := Seed.coerce_eq_ok.2 (.inl form)

end Generation

open Generation

/-- A text is a seed exactly if it spells thirty-two bytes in pairs of digits. The configuration then
has these bytes for its seed, in particular where they were written in lower case or in upper case,
and generates what any form of the bytes does; any other text is refused as the field of the seed. -/
theorem Config.ofFields_seedText (memory : Nat) (t : Text) :
    (∀ config, ofFields memory (seedFields t) = .ok config ↔
        ∃ seed : Seed, Hex.Spelled t seed.bytes ∧ config = ofSeed seed) ∧
      ((¬∃ seed : Seed, Hex.Spelled t seed.bytes) → ∃ message,
        ofFields memory (seedFields t) =
          .error (.fields [{ field := "seed", fault := .refused message, input := .text t }])) ∧
      (∀ seed : Seed, t = Hex.encode seed.bytes ∨ t = (Hex.encode seed.bytes).toUpper →
        ofFields memory (seedFields t) = .ok (ofSeed seed)) ∧
      ∀ (seed : Seed) (value : Value), Seed.Form value seed.bytes →
        ∀ (resources : Resources) (logging : Logging) (guarded : GuardedStore),
          generate resources logging guarded (ofSeed seed).request =
            generate resources logging guarded
              { count := .int 0, probability := .float evenProbability, seed := value } := by
  have read : ∀ config, ofFields memory (seedFields t) = .ok config ↔
      ∃ seed : Seed, Hex.Spelled t seed.bytes ∧ config = ofSeed seed := by
    intro config
    simp only [ofFields_seedFields, ← seedOfText_eq_ok]
    cases seedOfText t <;> simp [Except.map, Except.mapError, eq_comm]
  refine ⟨read, ?_, ?_, ?_⟩
  · intro misspelled
    rw [ofFields_seedFields]
    cases own : seedOfText t with
    | ok seed => exact absurd ⟨seed, seedOfText_eq_ok.1 own⟩ misspelled
    | error fault =>
      obtain ⟨message, rfl⟩ := exists_message_of_seedOfText own
      exact ⟨message, rfl⟩
  · rintro seed (rfl | rfl)
    · exact (read _).2 ⟨seed, ⟨_, rfl, Hex.spells_encode seed.bytes⟩, rfl⟩
    · exact (read _).2 ⟨seed, ⟨_, rfl, Hex.spells_toUpper_encode seed.bytes⟩, rfl⟩
  · intro seed value form
    exact generate_congr (asks_of_form (.bytes seed.bytes) 0 evenProbability)
      (asks_of_form form 0 evenProbability) rfl

/-- Thirty-two bytes of ten, once in upper case, and once more as a list of numbers. -/
theorem Config.ofFields_seedText_upper :
    let seed : Seed := { bytes := List.replicate 32 10, length_eq := rfl }
    let t : Text := (Hex.encode seed.bytes).toUpper
    let store := GuardedStore.ofStore (Store.empty.perform (.edge
      { time := .int 7, source := .int 3, target := .int 5, properties := .none
        type := .none })).1
    Seed.Form (.list (List.replicate 32 (.int 10))) seed.bytes ∧
      ofFields 0 (seedFields t) = .ok (ofSeed seed) ∧
      generate .zero .strict store (ofSeed seed).request =
        generate .zero .strict store
          { count := .int 0, probability := .float evenProbability
            seed := .list (List.replicate 32 (.int 10)) } := by
  intro seed t store
  have each : List.Forall₂ Seed.IsByte (seed.bytes.map fun byte => .int byte.toNat) seed.bytes :=
    List.forall₂_map_left_iff.2 (List.forall₂_same.2 fun byte _ => .int byte)
  have items : Seed.Form (.list (List.replicate 32 (.int 10))) seed.bytes := .list each
  obtain ⟨_, _, written, generated⟩ := ofFields_seedText 0 t
  exact ⟨items, written seed (.inr rfl), generated seed _ items .zero .strict store⟩

end TemporalNetwork
