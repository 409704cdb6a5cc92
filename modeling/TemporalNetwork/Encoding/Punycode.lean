/-!
Punycode: a text in ASCII letters, digits and hyphens. The ASCII characters stand in front; behind
them each other character is a number that counts the steps from the one inserted before it, over
all places of the text and all code points in between, in digits of base 36 whose weights adapt.
-/

namespace TemporalNetwork.Punycode

def digitChar (d : Nat) : Char := Char.ofNat (if d < 26 then 97 + d else 22 + d)

/-- How far a digit at position `k` may go before another one follows. -/
def threshold (bias k : Nat) : Nat := if k ≤ bias then 1 else min 26 (k - bias)

theorem threshold_bounds (bias k : Nat) : 1 ≤ threshold bias k ∧ threshold bias k ≤ 26 := by
  simp only [threshold]; split <;> omega

def digits (bias k q : Nat) : List Char :=
  let t := threshold bias k
  if q < t then [digitChar q]
  else digitChar (t + (q - t) % (36 - t)) :: digits bias (k + 36) ((q - t) / (36 - t))
termination_by q
decreasing_by
  have bounds := threshold_bounds bias k
  have quotient := Nat.div_le_self (q - threshold bias k) (36 - threshold bias k)
  omega

def scale (delta : Nat) : Nat :=
  if 455 < delta then 36 + scale (delta / 35) else 36 * delta / (delta + 38)
termination_by delta
decreasing_by omega

def adapt (delta count : Nat) (first : Bool) : Nat :=
  let part := if first then delta / 700 else delta / 2
  scale (part + part / count)

/-- What is written so far, how many characters it stands for, the steps since the last of them, and
whether all of them are ASCII. -/
structure State where
  written : List Char
  count : Nat
  steps : Nat
  bias : Nat
  first : Bool

def State.pass (code : Nat) (state : State) (c : Char) : State :=
  if c.toNat < code then { state with steps := state.steps + 1 }
  else if c.toNat = code then
    { written := state.written ++ digits state.bias 36 state.steps
      count := state.count + 1
      steps := 0
      bias := adapt state.steps (state.count + 1) state.first
      first := false }
  else state

def insertAll (cs : List Char) (code : Nat) (state : State) : List Nat → State
  | [] => state
  | next :: rest =>
    let start := { state with steps := state.steps + (next - code) * (state.count + 1) }
    let after := cs.foldl (State.pass next) start
    insertAll cs (next + 1) { after with steps := after.steps + 1 } rest

def encode (cs : List Char) : List Char :=
  let plain := cs.filter fun c => c.toNat < 0x80
  let others := (cs.map Char.toNat).filter fun code => 0x80 ≤ code
  let start : State :=
    { written := if plain.isEmpty then [] else plain ++ ['-']
      count := plain.length
      steps := 0
      bias := 72
      first := true }
  (insertAll cs 0x80 start (others.mergeSort (· ≤ ·)).eraseDups).written

end TemporalNetwork.Punycode
