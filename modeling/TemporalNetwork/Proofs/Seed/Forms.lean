import Mathlib.Data.List.Forall2
import TemporalNetwork.Seed

/-!
The values that are read as seeds. Bytes and sequences of bytes are meant to be; a dict is read by its
keys, a number as so many zero bytes, and an object by whatever it answers, though none of these is one
of the forms of a seed. Main statement: these are all, a form stands for its own bytes, and what is no
seed is refused with a fault of the value, unless it is a number by its size.
-/

namespace TemporalNetwork.Seed

/-- An item is a byte: a whole number in its range, or a truth value as one or zero. -/
inductive IsByte : Value → UInt8 → Prop
  | int (byte : UInt8) : IsByte (.int byte.toNat) byte
  | bool (truth : Bool) : IsByte (.bool truth) (if truth then 1 else 0)

/-- The forms of some bytes: the bytes themselves, or a sequence with an item for each of them. -/
inductive Form : Value → List UInt8 → Prop
  | bytes (content : List UInt8) : Form (.bytes content) content
  | buffer (content : List UInt8) : Form (.buffer content) content
  | list {items : List Value} {content : List UInt8} (each : List.Forall₂ IsByte items content) :
      Form (.list items) content
  | tuple {items : List Value} {content : List UInt8} (each : List.Forall₂ IsByte items content) :
      Form (.tuple items) content

/-- An item stands for a byte: it is one, or an object that indexes as one. -/
inductive StandsFor : Value → UInt8 → Prop
  | byte {item : Value} {byte : UInt8} (is : IsByte item byte) : StandsFor item byte
  | object {traits : Traits} {items : Option (List Value)} {byte : UInt8}
      (index : traits.index? = some (byte.toNat : Int)) : StandsFor (.object traits items) byte

inductive Counts : Value → Int → Prop
  | int (n : Int) : Counts (.int n) n
  | bool (truth : Bool) : Counts (.bool truth) (if truth then 1 else 0)
  | object {traits : Traits} {items : Option (List Value)} {n : Int} (bytes : traits.bytes = none)
      (index : traits.index? = some n) : Counts (.object traits items) n

/-- Values that are no form of any bytes, and are read as bytes all the same. -/
inductive Misread (memory : Nat) : Value → List UInt8 → Prop
  | list {items : List Value} {content : List UInt8} (each : List.Forall₂ StandsFor items content)
      (other : ¬List.Forall₂ IsByte items content) : Misread memory (.list items) content
  | tuple {items : List Value} {content : List UInt8} (each : List.Forall₂ StandsFor items content)
      (other : ¬List.Forall₂ IsByte items content) : Misread memory (.tuple items) content
  | keys {entries : List (Value × Value)} {content : List UInt8}
      (each : List.Forall₂ StandsFor (entries.map Prod.fst) content) :
      Misread memory (.dict entries) content
  | count {value : Value} {n : Nat} (counts : Counts value n) (granted : n ≤ memory) :
      Misread memory value (List.replicate n 0)
  | bytes {traits : Traits} {items : Option (List Value)} {content : List UInt8}
      (own : traits.bytes = some content) : Misread memory (.object traits items) content
  | view {traits : Traits} {items : Option (List Value)} {content : List UInt8}
      (bytes : traits.bytes = none) (index : traits.index? = none)
      (own : traits.view = some content) : Misread memory (.object traits items) content
  | items {traits : Traits} {items : List Value} {content : List UInt8}
      (bytes : traits.bytes = none) (index : traits.index? = none) (view : traits.view = none)
      (each : List.Forall₂ StandsFor items content) :
      Misread memory (.object traits (some items)) content

/-- Counts that are not granted, or are no numbers of a machine word, or leave no room in one. -/
def Oversized (memory : Nat) (n : Int) : Prop :=
  n < Int64.minValue.toInt ∨ Int64.maxValue.toInt - 33 < n ∨ memory < n

/-! ## Items -/

theorem byteOfInt_eq_ok {n : Int} {byte : UInt8} : byteOfInt n = .ok byte ↔ n = byte.toNat := by
  rw [byteOfInt]
  constructor
  · intro read
    split at read
    · next range =>
      simp only [Bool.and_eq_true, decide_eq_true_eq] at range
      cases read
      rw [UInt8.toNat_ofNat', Nat.mod_eq_of_lt (by omega)]
      omega
    · cases read
  · rintro rfl
    have small := byte.toNat_lt
    rw [if_pos (by simp; omega), Int.toNat_natCast, UInt8.ofNat_toNat]

theorem byteOfItem_eq_ok {item : Value} {byte : UInt8} :
    byteOfItem item = .ok byte ↔ StandsFor item byte := by
  constructor
  · intro read
    cases item with
    | int n =>
      rw [byteOfInt_eq_ok.1 read]
      exact .byte (.int byte)
    | bool truth =>
      have same : byte = if truth then 1 else 0 := by
        cases truth <;> exact (Except.ok.inj read).symm
      rw [same]
      exact .byte (.bool truth)
    | object traits items =>
      rw [byteOfItem] at read
      split at read
      · next n index => exact .object (byteOfInt_eq_ok.1 read ▸ index)
      · cases read
    | _ => cases read
  · rintro (⟨_ | ⟨_ | _⟩⟩ | index)
    · exact byteOfInt_eq_ok.2 rfl
    · rfl
    · rfl
    · rw [byteOfItem, index]
      exact byteOfInt_eq_ok.2 rfl

theorem mapM_byteOfItem_eq_ok {items : List Value} {content : List UInt8} :
    items.mapM byteOfItem = .ok content ↔ List.Forall₂ StandsFor items content := by
  induction items generalizing content with
  | nil => simp [pure, Except.pure, eq_comm]
  | cons item rest ih =>
    rw [List.mapM_cons, List.forall₂_cons_left_iff]
    simp only [← byteOfItem_eq_ok, ← ih]
    cases byteOfItem item with
    | error fault => simp [bind, Except.bind]
    | ok byte =>
      cases rest.mapM byteOfItem with
      | error fault => simp [bind, Except.bind]
      | ok more => simp [bind, Except.bind, pure, Except.pure, eq_comm]

/-! ## Values -/

theorem ofBytes_eq_ok {content : List UInt8} {seed : Seed} :
    ofBytes content = .ok seed ↔ content = seed.bytes := by
  rw [ofBytes]
  constructor
  · intro read
    split at read
    · cases read
      rfl
    · cases read
  · rintro rfl
    rw [dif_pos seed.length_eq]

theorem ofItems_eq_ok {items : List Value} {seed : Seed} :
    ofItems items = .ok seed ↔ List.Forall₂ StandsFor items seed.bytes := by
  rw [← mapM_byteOfItem_eq_ok, ofItems]
  cases items.mapM byteOfItem with
  | error fault => simp [bind, Except.bind]
  | ok content => simp [bind, Except.bind, ofBytes_eq_ok]

-- A count that is refused is refused for its size, or for the length of the bytes.
theorem ofCount_cases (memory : Nat) (n : Int) :
    (ofCount memory n = .ok zero ∧ n = 32 ∧ ¬Oversized memory n) ∨
      ∃ fault, ofCount memory n = .error fault ∧ (n = 32 → Oversized memory n) ∧
        (fault.isSize = true ↔ Oversized memory n) := by
  have least : Int64.minValue.toInt = -0x8000000000000000 := rfl
  have greatest : Int64.maxValue.toInt = 0x7fffffffffffffff := rfl
  simp only [ofCount, least, greatest, Bool.or_eq_true, decide_eq_true_eq, Oversized]
  split
  · next outside => exact .inr ⟨.countRange, rfl, by omega, iff_of_true rfl (by omega)⟩
  split
  · next below =>
    exact .inr ⟨.negativeCount, rfl, by omega, iff_of_false Bool.false_ne_true (by omega)⟩
  split
  · next large => exact .inr ⟨.countTooLarge, rfl, by omega, iff_of_true rfl (by omega)⟩
  split
  · next large => exact .inr ⟨.outOfMemory, rfl, by omega, iff_of_true rfl (by omega)⟩
  split
  · next same => exact .inl ⟨rfl, same, by omega⟩
  · exact .inr ⟨.length n.toNat, rfl, by omega, iff_of_false Bool.false_ne_true (by omega)⟩

theorem ofCount_eq_ok {memory : Nat} {n : Int} {seed : Seed} :
    ofCount memory n = .ok seed ↔ n = 32 ∧ 32 ≤ memory ∧ seed = zero := by
  have greatest : Int64.maxValue.toInt = 0x7fffffffffffffff := rfl
  have least : Int64.minValue.toInt = -0x8000000000000000 := rfl
  rcases ofCount_cases memory n with ⟨read, same, granted⟩ | ⟨fault, failed, large, _⟩
  · simp only [Oversized, greatest, least] at granted
    rw [read, Except.ok.injEq]
    constructor
    · intro zero
      exact ⟨same, by omega, zero.symm⟩
    · exact fun given => given.2.2.symm
  · simp only [Oversized, greatest, least] at large
    rw [failed]
    refine iff_of_false nofun ?_
    rintro ⟨same, granted, _⟩
    have size := large same
    omega

theorem eq_zero_iff {seed : Seed} : seed = zero ↔ seed.bytes = List.replicate 32 0 := by
  cases seed
  simp [zero]

-- The zeros of a count that is granted, of which there are as many as a seed has bytes.
theorem misread_of_count {memory : Nat} {value : Value} {n : Int} {seed : Seed}
    (counts : Counts value n) (read : ofCount memory n = .ok seed) :
    Misread memory value seed.bytes := by
  obtain ⟨rfl, granted, rfl⟩ := ofCount_eq_ok.1 read
  exact .count (n := 32) counts granted

theorem ofCount_of_granted {memory n : Nat} {seed : Seed} (granted : n ≤ memory)
    (own : seed.bytes = List.replicate n 0) : ofCount memory n = .ok seed := by
  have size : n = 32 := by rw [← seed.length_eq, own, List.length_replicate]
  subst size
  exact ofCount_eq_ok.2 ⟨rfl, granted, eq_zero_iff.2 own⟩

-- A sequence is a form if all its items are bytes, and misread if some of them are objects.
theorem form_or_misread {memory : Nat} {items : List Value} {content : List UInt8}
    (each : List.Forall₂ StandsFor items content) :
    (Form (.list items) content ∨ Misread memory (.list items) content) ∧
      (Form (.tuple items) content ∨ Misread memory (.tuple items) content) := by
  by_cases bytes : List.Forall₂ IsByte items content
  · exact ⟨.inl (.list bytes), .inl (.tuple bytes)⟩
  · exact ⟨.inr (.list each bytes), .inr (.tuple each bytes)⟩

theorem ofObject_of_counts (memory : Nat) {traits : Traits} {items : Option (List Value)} {n : Int}
    (counts : Counts (.object traits items) n) : ofObject memory traits items = ofCount memory n := by
  cases counts with
  | object bytes index => simp only [ofObject, bytes, index]

theorem ofObject_eq_ok {memory : Nat} {traits : Traits} {items : Option (List Value)}
    {seed : Seed} :
    ofObject memory traits items = .ok seed ↔
      Misread memory (.object traits items) seed.bytes := by
  constructor
  · intro read
    unfold ofObject at read
    split at read
    · next own => exact .bytes (ofBytes_eq_ok.1 read ▸ own)
    next bytes =>
    split at read
    · next index => exact misread_of_count (.object bytes index) read
    next index =>
    split at read
    · next own => exact .view bytes index (ofBytes_eq_ok.1 read ▸ own)
    next view =>
    split at read
    · exact .items bytes index view (ofItems_eq_ok.1 read)
    · cases read
  · intro misread
    generalize own : seed.bytes = content at misread
    cases misread with
    | count counts granted =>
      rw [ofObject_of_counts memory counts]
      exact ofCount_of_granted granted own
    | bytes given =>
      simp only [ofObject, given]
      exact ofBytes_eq_ok.2 own.symm
    | view bytes index given =>
      simp only [ofObject, bytes, index, given]
      exact ofBytes_eq_ok.2 own.symm
    | items bytes index view each =>
      simp only [ofObject, bytes, index, view]
      exact ofItems_eq_ok.2 (own ▸ each)

theorem coerce_of_counts (memory : Nat) {value : Value} {n : Int} (counts : Counts value n) :
    coerce memory value = ofCount memory n := by
  cases counts with
  | int => rfl
  | bool => rfl
  | object bytes index => exact ofObject_of_counts memory (.object bytes index)

theorem coerce_eq_ok {memory : Nat} {value : Value} {seed : Seed} :
    coerce memory value = .ok seed ↔
      Form value seed.bytes ∨ Misread memory value seed.bytes := by
  constructor
  · intro read
    cases value with
    | bytes content =>
      rw [ofBytes_eq_ok.1 read]
      exact .inl (.bytes seed.bytes)
    | buffer content =>
      rw [ofBytes_eq_ok.1 read]
      exact .inl (.buffer seed.bytes)
    | list items => exact (form_or_misread (ofItems_eq_ok.1 read)).1
    | tuple items => exact (form_or_misread (ofItems_eq_ok.1 read)).2
    | dict entries => exact .inr (.keys (ofItems_eq_ok.1 read))
    | int n => exact .inr (misread_of_count (.int n) read)
    | bool truth => exact .inr (misread_of_count (.bool truth) read)
    | object traits items => exact .inr (ofObject_eq_ok.1 read)
    | none | float | text => cases read
  · rintro (form | misread)
    · cases form with
      | bytes => exact ofBytes_eq_ok.2 rfl
      | buffer => exact ofBytes_eq_ok.2 rfl
      | list each => exact ofItems_eq_ok.2 (each.imp fun _ _ => .byte)
      | tuple each => exact ofItems_eq_ok.2 (each.imp fun _ _ => .byte)
    · generalize own : seed.bytes = content at misread
      cases misread with
      | list each => exact ofItems_eq_ok.2 (own ▸ each)
      | tuple each => exact ofItems_eq_ok.2 (own ▸ each)
      | keys each => exact ofItems_eq_ok.2 (own ▸ each)
      | count counts granted =>
        rw [coerce_of_counts memory counts]
        exact ofCount_of_granted granted own
      | bytes given => exact ofObject_eq_ok.2 (.bytes (own ▸ given))
      | view bytes index given => exact ofObject_eq_ok.2 (.view bytes index (own ▸ given))
      | items bytes index view each =>
        exact ofObject_eq_ok.2 (.items bytes index view (own ▸ each))

theorem coerce_of_room {memory more : Nat} (room : size ≤ more) {value : Value} {seed : Seed}
    (read : coerce memory value = .ok seed) : coerce more value = .ok seed := by
  rw [coerce_eq_ok] at read ⊢
  refine read.imp_right fun misread => ?_
  generalize own : seed.bytes = content at misread ⊢
  cases misread with
  | list each other => exact .list each other
  | tuple each other => exact .tuple each other
  | keys each => exact .keys each
  | count counts granted =>
    rename_i n
    have same : n = size := by rw [size, ← seed.length_eq, own, List.length_replicate]
    exact .count counts (same ▸ room)
  | bytes own => exact .bytes own
  | view bytes index own => exact .view bytes index own
  | items bytes index view each => exact .items bytes index view each

/-! ## Faults -/

theorem isSize_ofBytes {content : List UInt8} {fault : Fault}
    (failed : ofBytes content = .error fault) : fault.isSize = false := by
  rw [ofBytes] at failed
  split at failed
  · cases failed
  · cases failed
    rfl

theorem isSize_byteOfItem {item : Value} {fault : Fault}
    (failed : byteOfItem item = .error fault) : fault.isSize = false := by
  have number : ∀ n, byteOfInt n = .error fault → fault.isSize = false := by
    intro n outside
    rw [byteOfInt] at outside
    split at outside
    · cases outside
    · cases outside
      rfl
  cases item with
  | int n => exact number n failed
  | bool truth => exact number _ failed
  | object traits items =>
    rw [byteOfItem] at failed
    split at failed
    · exact number _ failed
    · cases failed
      rfl
  | _ =>
    cases failed
    rfl

-- The fault of several items is the fault of one of them.
theorem isSize_mapM_byteOfItem {items : List Value} {fault : Fault}
    (failed : items.mapM byteOfItem = .error fault) : fault.isSize = false := by
  induction items with
  | nil => cases failed
  | cons item rest ih =>
    rw [List.mapM_cons] at failed
    cases first : byteOfItem item with
    | error own =>
      rw [first] at failed
      cases failed
      exact isSize_byteOfItem first
    | ok byte =>
      cases others : rest.mapM byteOfItem with
      | error later =>
        rw [first, others] at failed
        cases failed
        exact ih others
      | ok content =>
        rw [first, others] at failed
        cases failed

theorem isSize_ofItems {items : List Value} {fault : Fault}
    (failed : ofItems items = .error fault) : fault.isSize = false := by
  rw [ofItems] at failed
  cases read : items.mapM byteOfItem with
  | error cause =>
    rw [read] at failed
    cases failed
    exact isSize_mapM_byteOfItem read
  | ok content =>
    rw [read] at failed
    exact isSize_ofBytes failed

theorem isSize_ofCount {memory : Nat} {n : Int} {fault : Fault}
    (failed : ofCount memory n = .error fault) : fault.isSize = true ↔ Oversized memory n := by
  rcases ofCount_cases memory n with ⟨read, _⟩ | ⟨own, refused, _, size⟩
  · rw [read] at failed
    cases failed
  · rw [failed] at refused
    cases refused
    exact size

theorem not_isSize_of_not_counts {memory : Nat} {value : Value} {fault : Fault}
    (other : ∀ n, ¬Counts value n) (failed : coerce memory value = .error fault) :
    fault.isSize = false := by
  cases value with
  | int n => exact absurd (.int n) (other n)
  | bool truth => exact absurd (.bool truth) (other _)
  | bytes content => exact isSize_ofBytes failed
  | buffer content => exact isSize_ofBytes failed
  | list items => exact isSize_ofItems failed
  | tuple items => exact isSize_ofItems failed
  | dict entries => exact isSize_ofItems failed
  | object traits items =>
    simp only [coerce, ofObject] at failed
    split at failed
    · exact isSize_ofBytes failed
    next bytes =>
    split at failed
    · next index => exact absurd (.object bytes index) (other _)
    split at failed
    · exact isSize_ofBytes failed
    split at failed
    · exact isSize_ofItems failed
    · cases failed
      rfl
  | none | float | text =>
    cases failed
    rfl

theorem isSize_coerce {memory : Nat} {value : Value} {fault : Fault}
    (failed : coerce memory value = .error fault) :
    fault.isSize = true ↔ ∃ n, Counts value n ∧ Oversized memory n := by
  constructor
  · intro size
    by_contra none
    by_cases count : ∃ n, Counts value n
    · obtain ⟨n, counts⟩ := count
      rw [coerce_of_counts memory counts] at failed
      exact none ⟨n, counts, (isSize_ofCount failed).1 size⟩
    · rw [not_isSize_of_not_counts (not_exists.1 count) failed] at size
      cases size
  · rintro ⟨n, counts, large⟩
    rw [coerce_of_counts memory counts] at failed
    exact (isSize_ofCount failed).2 large

/-! ## Every value -/

/-- What is read as a seed, and how what is none is refused. All forms of some bytes give the same
seed, among them the bytes of the seed itself; a fault is one of size for counts that are too large,
and for nothing else. -/
theorem coerce_law (memory : Nat) (value : Value) :
    (∀ seed, coerce memory value = .ok seed ↔
        Form value seed.bytes ∨ Misread memory value seed.bytes) ∧
      (∀ seed, coerce memory value = .ok seed → coerce memory (.bytes seed.bytes) = .ok seed) ∧
      ∀ fault, coerce memory value = .error fault →
        (fault.isSize = true ↔ ∃ n, Counts value n ∧ Oversized memory n) :=
  ⟨fun _ => coerce_eq_ok, fun _ _ => ofBytes_eq_ok.2 rfl, fun _ => isSize_coerce⟩

/-- A number is no form of any bytes: the number of the bytes is read as a seed of zeros, and a number
beyond a machine word is refused for its size. -/
theorem coerce_number :
    (∀ n content, ¬Form (.int n) content) ∧
      ∀ memory, (32 ≤ memory → coerce memory (.int 32) = .ok zero) ∧
        coerce memory (.int 0x8000000000000000) = .error .countRange ∧
        Fault.countRange.isSize = true :=
  ⟨nofun, fun _ => ⟨fun room => ofCount_eq_ok.2 ⟨rfl, room, rfl⟩, rfl, rfl⟩⟩

end TemporalNetwork.Seed
