import TemporalNetwork.Draws.Twister
import TemporalNetwork.Seed

/-!
Sources of draws: a twister, whether it was started from a seed of the caller's, and a count of the
draws made.
-/

namespace TemporalNetwork

structure Source where
  twister : Twister
  seeded : Bool
  drawn : Nat

namespace Source

def ofSeed (seed : Seed) : Source :=
  { twister := Twister.ofBytes seed.bytes, seeded := true, drawn := 0 }

def ofEntropy (entropy : Seed) : Source :=
  { twister := Twister.ofBytes entropy.bytes, seeded := false, drawn := 0 }

/-- The source for a value: no value asks for entropy, any other has to be a seed. -/
def ofValue (resources : Resources) : Value → Except Seed.Fault Source
  | .none => .ok (ofEntropy resources.entropy)
  | value => (Seed.coerce resources.memory value).map ofSeed

def uniform (source : Source) : Draw × Source :=
  let (fresh, twister) := source.twister.draw
  (fresh, { source with twister, drawn := source.drawn + 1 })

def take (n : Nat) (source : Source) : List Draw × Source :=
  let (made, twister) := source.twister.draws n
  (made, { source with twister, drawn := source.drawn + n })

theorem take_length (n : Nat) (source : Source) : (source.take n).1.length = n :=
  Twister.draws_length n source.twister

end Source

end TemporalNetwork
