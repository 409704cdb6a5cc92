import TemporalNetwork.Coercion.Field
import TemporalNetwork.Coercion.Number
import TemporalNetwork.Generation.Run
import TemporalNetwork.Seed.Hex

/-!
The configuration of a generation, read from fields of any kind. A seed may be a hexadecimal text
beside the forms that seeds have everywhere.
-/

namespace TemporalNetwork

structure Config where
  generator : String
  count : Nat
  probability : Double
  seed : Option Seed

namespace Config

/-- Fields that cannot be read, or a seed of a size that no field could have. -/
inductive Fault where
  | fields (faults : List FieldFault)
  | seedSize (fault : Seed.Fault)
  deriving Repr

def seedOfText (t : Text) : Except Coercion.Fault Seed :=
  match Hex.decode t with
  | .error position =>
    .error (.refused ("Seed string must be hex: non-hexadecimal number found in fromhex() arg " ++
      "at position " ++ Decimal.ofNat position))
  | .ok bytes => (Seed.ofBytes bytes).mapError fun fault => .refused fault.message

def readSeed (memory : Nat) : Value → Except Coercion.Fault (Option Seed)
  | .none => .ok none
  | .text t => (seedOfText t).map some
  | value => ((Seed.coerce memory value).map some).mapError fun fault => .refused fault.message

def seedSizeFault? (memory : Nat) (fields : Fields) : Option Seed.Fault :=
  match (fields.find? "seed").map (Seed.coerce memory) with
  | some (.error fault) => if fault.isSize then some fault else none
  | _ => none

def check (memory : Nat) (fields : Fields) : Checked Config :=
  let generator := fields.optional "generator" Generator.erdosRenyi.name Coercion.text
  let count := fields.required "n_nodes" Coercion.count
  let probability := fields.optional "p" Generation.evenProbability Coercion.number
  let seed := fields.optional "seed" none (readSeed memory)
  (generator.and (count.and (probability.and seed))).map
    fun (generator, count, probability, seed) => { generator, count, probability, seed }

def ofFields (memory : Nat) (fields : Fields) : Except Fault Config :=
  match seedSizeFault? memory fields with
  | some fault => .error (.seedSize fault)
  | none => (check memory fields).mapError .fields

def request (config : Config) : Generation.Request :=
  { count := .int config.count
    probability := .float config.probability
    seed := match config.seed with
      | none => .none
      | some seed => .bytes seed.bytes }

end Config

end TemporalNetwork
