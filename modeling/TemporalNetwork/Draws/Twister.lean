import TemporalNetwork.Digest.Sha512

/-!
The Mersenne Twister on 32-bit words: 624 words of state, a key of any length to start from, and
draws of 53 bits, each made from two consecutive outputs.
-/

namespace TemporalNetwork

/-- A draw `k` stands for `k / 2^53`, a number from zero up to but not including one. -/
abbrev Draw := Fin (1 <<< 53)

structure Twister where
  state : Array UInt32
  taken : Nat
  deriving Inhabited

namespace Twister

def size : Nat := 624

def grow (first : UInt32) : List UInt32 :=
  (List.range (size - 1)).foldl (fun latest index =>
    let last := latest.headD 0
    ((last ^^^ (last >>> 30)) * 1812433253 + UInt32.ofNat (index + 1)) :: latest) [first]

def word (state : Array UInt32) (index : Nat) : UInt32 := state.getD index 0

def spread (state : Array UInt32) (index : Nat) : UInt32 :=
  let before := word state (index - 1)
  before ^^^ (before >>> 30)

/-- After the last word the walk goes on at the second one, and the first takes the last. -/
def wrap (state : Array UInt32) (index : Nat) : Array UInt32 × Nat :=
  if size ≤ index then (state.setIfInBounds 0 (word state (size - 1)), 1) else (state, index)

def stirKey (key : List UInt32) (walk : Array UInt32 × Nat × Nat) : Array UInt32 × Nat × Nat :=
  let (state, index, place) := walk
  let mixed := (word state index ^^^ (spread state index * 1664525)) + key.getD place 0 +
    UInt32.ofNat place
  let (state, index) := wrap (state.setIfInBounds index mixed) (index + 1)
  (state, index, if key.length ≤ place + 1 then 0 else place + 1)

def stirIndex (walk : Array UInt32 × Nat) : Array UInt32 × Nat :=
  let (state, index) := walk
  let mixed := (word state index ^^^ (spread state index * 1566083941)) - UInt32.ofNat index
  wrap (state.setIfInBounds index mixed) (index + 1)

def ofKey (key : List UInt32) : Twister :=
  let start := (grow 19650218).reverse.toArray
  let (keyed, index, _) := (List.range (max size key.length)).foldl
    (fun walk _ => stirKey key walk) (start, 1, 0)
  let (stirred, _) := (List.range (size - 1)).foldl (fun walk _ => stirIndex walk) (keyed, index)
  { state := stirred.setIfInBounds 0 0x80000000, taken := size }

def renewWord (state : Array UInt32) (index : Nat) : Array UInt32 :=
  let joined := (word state index &&& 0x80000000) |||
    (word state ((index + 1) % size) &&& 0x7fffffff)
  let twist : UInt32 := if joined &&& 1 = 0 then 0 else 0x9908b0df
  state.setIfInBounds index (word state ((index + 397) % size) ^^^ (joined >>> 1) ^^^ twist)

def renew (state : Array UInt32) : Array UInt32 := (List.range size).foldl renewWord state

def temper (y : UInt32) : UInt32 :=
  let y := y ^^^ (y >>> 11)
  let y := y ^^^ ((y <<< 7) &&& 0x9d2c5680)
  let y := y ^^^ ((y <<< 15) &&& 0xefc60000)
  y ^^^ (y >>> 18)

def next (twister : Twister) : UInt32 × Twister :=
  let (state, taken) :=
    if size ≤ twister.taken then (renew twister.state, 0) else (twister.state, twister.taken)
  (temper (word state taken), { state, taken := taken + 1 })

/-- The high 27 bits of one output above the high 26 bits of the next. -/
def joinOutputs (high low : UInt32) : Draw :=
  ⟨(high >>> 5).toNat <<< 26 + (low >>> 6).toNat, by
    have highBound := high.toNat_lt
    have lowBound := low.toNat_lt
    have highShift : (high >>> 5).toNat = high.toNat >>> 5 := UInt32.toNat_shiftRight high 5
    have lowShift : (low >>> 6).toNat = low.toNat >>> 6 := UInt32.toNat_shiftRight low 6
    rw [highShift, lowShift]
    omega⟩

def draw (twister : Twister) : Draw × Twister :=
  let (high, twister) := twister.next
  let (low, twister) := twister.next
  (joinOutputs high low, twister)

def drawOnto : Nat → Twister → List Draw → List Draw × Twister
  | 0, twister, made => (made, twister)
  | n + 1, twister, made =>
    let (fresh, twister) := twister.draw
    drawOnto n twister (fresh :: made)

def draws (n : Nat) (twister : Twister) : List Draw × Twister :=
  let (made, twister) := drawOnto n twister []
  (made.reverse, twister)

theorem drawOnto_length (n : Nat) (twister : Twister) (made : List Draw) :
    (drawOnto n twister made).1.length = made.length + n := by
  induction n generalizing twister made with
  | zero => rfl
  | succ n ih => simp only [drawOnto, ih, List.length_cons]; omega

theorem draws_length (n : Nat) (twister : Twister) : (twister.draws n).1.length = n := by
  simp [draws, drawOnto_length]

def limbs (n : Nat) : List UInt32 :=
  if n < UInt32.size then [UInt32.ofNat n]
  else UInt32.ofNat (n % UInt32.size) :: limbs (n / UInt32.size)
decreasing_by simp only [UInt32.size] at *; omega

def ofBytes (bytes : List UInt8) : Twister :=
  ofKey (limbs (Sha512.fromBigEndian (bytes ++ Sha512.digest bytes)))

end Twister

end TemporalNetwork
