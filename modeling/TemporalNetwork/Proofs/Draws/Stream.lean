import TemporalNetwork.Draws.Source

/-!
The stream of a source: the draws it will make, by number. Draws that are made one by one or many at
a time are the same draws.
-/

namespace TemporalNetwork

namespace Twister

def stream (twister : Twister) : Nat → Draw
  | 0 => twister.draw.1
  | k + 1 => stream twister.draw.2 k

theorem drawOnto_eq (n : Nat) (twister : Twister) (made : List Draw) :
    (drawOnto n twister made).1 = ((List.range n).map twister.stream).reverse ++ made := by
  induction n generalizing twister made with
  | zero => rfl
  | succ n ih =>
    simp only [drawOnto]
    rw [ih, List.range_succ_eq_map, List.map_cons, List.reverse_cons, List.map_map,
      List.append_assoc]
    rfl

theorem draws_eq (n : Nat) (twister : Twister) :
    (twister.draws n).1 = (List.range n).map twister.stream := by
  simp [draws, drawOnto_eq]

end Twister

namespace Source

def stream (source : Source) : Nat → Draw := source.twister.stream

theorem take_eq (n : Nat) (source : Source) :
    (source.take n).1 = (List.range n).map source.stream := Twister.draws_eq n source.twister

@[simp] theorem uniform_draw (source : Source) : source.uniform.1 = source.stream 0 := rfl

@[simp] theorem stream_uniform (source : Source) (k : Nat) :
    source.uniform.2.stream k = source.stream (k + 1) := rfl

@[simp] theorem drawn_uniform (source : Source) :
    source.uniform.2.drawn = source.drawn + 1 := rfl

end Source

end TemporalNetwork
