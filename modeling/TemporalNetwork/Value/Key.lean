import TemporalNetwork.Value

/-!
Equal values, and values as keys. Numbers are equal by what they are worth, whatever their kind, so
`1`, `1.0` and `True` name the same entry; lists, dicts and buffers cannot be keys, nor can a tuple
that holds one.
-/

namespace TemporalNetwork.Value

mutual

/-- The kind of the first part that keeps a value from being a key. -/
def unhashable? : Value → Option Kind
  | .list _ => some .list
  | .dict _ => some .dict
  | .buffer _ => some .buffer
  | .tuple items => unhashableItem? items
  | .object traits _ => if traits.hashable then Option.none else some (.object traits.className)
  | _ => Option.none

def unhashableItem? : List Value → Option Kind
  | [] => Option.none
  | item :: rest => (unhashable? item).or (unhashableItem? rest)

end

def wholeNumber? : Value → Option Int
  | .bool truth => some (if truth then 1 else 0)
  | .int n => some n
  | .float x => x.toInt?
  | .object traits _ => traits.equal?
  | _ => Option.none

def content? : Value → Option (List UInt8)
  | .bytes content => some content
  | .buffer content => some content
  | .object traits _ => traits.view
  | _ => Option.none

def sameParts [BEq α] : Option α → Option α → Bool
  | some part, some other => part == other
  | _, _ => false

mutual

/-- Dicts are equal when each has the keys of the other with equal values, in any order. -/
def same : Value → Value → Bool
  | .none, .none => true
  | .text s, .text t => s == t
  | .list items, .list others => sameItems items others
  | .tuple items, .tuple others => sameItems items others
  | .dict entries, .dict others => entries.length == others.length && sameEntries entries others
  | .float x, .float y => x.sameNumber y
  | .object traits _, .object others _ => traits.mark == others.mark
  | value, other =>
    sameParts value.wholeNumber? other.wholeNumber? || sameParts value.content? other.content?

def sameItems : List Value → List Value → Bool
  | [], [] => true
  | item :: rest, other :: others => same item other && sameItems rest others
  | _, _ => false

def sameEntries : List (Value × Value) → List (Value × Value) → Bool
  | [], _ => true
  | (key, item) :: rest, others =>
    others.any (fun entry => same key entry.1 && same item entry.2) && sameEntries rest others

end

/-- Enters a value under a key: an equal key keeps its place and its form. -/
def insertEntry (entries : List (Value × Value)) (key item : Value) : List (Value × Value) :=
  match entries with
  | [] => [(key, item)]
  | (known, old) :: rest =>
    if known.same key then (known, item) :: rest
    else (known, old) :: insertEntry rest key item

end TemporalNetwork.Value
