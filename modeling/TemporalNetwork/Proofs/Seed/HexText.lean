import Mathlib.Data.List.Forall2
import TemporalNetwork.Seed.Hex

/-!
The grammar of hexadecimal texts: pairs of digits in either case, each with blanks before it, and
blanks at the end. Main statement: the reader takes a text exactly if it is one of the grammar, and
gives the bytes that the pairs stand for; among the texts are those that bytes are written as, in
lower case and in upper case.
-/

namespace TemporalNetwork.Hex

/-! ## Characters -/

def lowerRow : List Char := "0123456789abcdef".toList

def upperRow : List Char := "0123456789ABCDEF".toList

/-- A digit is worth its place in the row of its case. -/
def Worth (c : Char) (d : Nat) : Prop := lowerRow[d]? = some c ∨ upperRow[d]? = some c

instance (c : Char) (d : Nat) : Decidable (Worth c d) := inferInstanceAs (Decidable (_ ∨ _))

/-- Space, tab, line feed, line tabulation, form feed and carriage return. -/
def blanks : List Char := [' ', '\t', '\n', '\x0b', '\x0c', '\r']

theorem worth_lt {c : Char} {d : Nat} (worth : Worth c d) : d < 16 := by
  rcases worth with lower | upper
  · exact (List.getElem?_eq_some_iff.1 lower).1
  · exact (List.getElem?_eq_some_iff.1 upper).1

theorem mem_rows_of_worth {c : Char} {d : Nat} (worth : Worth c d) : c ∈ lowerRow ++ upperRow := by
  rcases worth with lower | upper
  · exact List.mem_append_left _ (List.mem_of_getElem? lower)
  · exact List.mem_append_right _ (List.mem_of_getElem? upper)

theorem not_isAsciiBlank_of_worth {c : Char} {d : Nat} (worth : Worth c d) :
    Text.isAsciiBlank c = false := by
  have none : (lowerRow ++ upperRow).all (fun c => !Text.isAsciiBlank c) = true := by decide
  simpa using List.all_eq_true.1 none c (mem_rows_of_worth worth)

theorem ascii_of_worth {c : Char} {d : Nat} (worth : Worth c d) : c.toNat < 128 := by
  have each : (lowerRow ++ upperRow).all (fun c => c.toNat < 128) = true := by decide
  exact of_decide_eq_true (List.all_eq_true.1 each c (mem_rows_of_worth worth))

theorem ascii_of_blank {c : Char} (blank : c ∈ blanks) : c.toNat < 128 := by
  have each : blanks.all (fun c => c.toNat < 128) = true := by decide
  exact of_decide_eq_true (List.all_eq_true.1 each c blank)

theorem ascii_of_hexDigit? {c : Char} {d : Nat} (digit : Text.hexDigit? c = some d) :
    c.toNat < 128 := by
  simp only [Text.hexDigit?, Char.isDigit, Bool.and_eq_true, decide_eq_true_eq, Char.le_def,
    UInt32.le_iff_toNat_le, ge_iff_le] at digit
  rw [Char.toNat]
  split at digit
  · next range => exact Nat.lt_of_le_of_lt range.2 (by decide)
  split at digit
  · next range => exact Nat.lt_of_le_of_lt range.2 (by decide)
  split at digit
  · next range => exact Nat.lt_of_le_of_lt range.2 (by decide)
  · cases digit

-- There are few enough characters in ASCII to look at each.
theorem forall_ascii (holds : Char → Prop) (table : ∀ n < 128, holds (Char.ofNat n)) {c : Char}
    (ascii : c.toNat < 128) : holds c := by
  have own := table c.toNat ascii
  rwa [Char.ofNat_toNat] at own

theorem hexDigit?_eq_some {c : Char} {d : Nat} : Text.hexDigit? c = some d ↔ Worth c d := by
  have table : c.toNat < 128 → ∀ d < 16, Text.hexDigit? c = some d ↔ Worth c d :=
    forall_ascii (fun c => ∀ d < 16, Text.hexDigit? c = some d ↔ Worth c d) (by decide +kernel)
  have small : c.toNat < 128 → ∀ d ∈ Text.hexDigit? c, d < 16 :=
    forall_ascii (fun c => ∀ d ∈ Text.hexDigit? c, d < 16) (by decide)
  constructor
  · intro digit
    have ascii := ascii_of_hexDigit? digit
    exact (table ascii d (small ascii d digit)).1 digit
  · intro worth
    exact (table (ascii_of_worth worth) d (worth_lt worth)).2 worth

theorem isAsciiBlank_iff {c : Char} : Text.isAsciiBlank c = true ↔ c ∈ blanks := by
  have table : c.toNat < 128 → (Text.isAsciiBlank c = true ↔ c ∈ blanks) :=
    forall_ascii (fun c => Text.isAsciiBlank c = true ↔ c ∈ blanks) (by decide)
  constructor
  · intro blank
    have range := blank
    simp only [Text.isAsciiBlank, Bool.or_eq_true, Bool.and_eq_true, decide_eq_true_eq,
      beq_iff_eq] at range
    exact (table (by omega)).1 blank
  · exact fun blank => (table (ascii_of_blank blank)).2 blank

/-! ## Texts -/

structure Pair where
  before : List Char
  high : Char
  low : Char

def Pair.text (pair : Pair) : List Char := pair.before ++ [pair.high, pair.low]

/-- A pair with blanks before it stands for sixteen times its first digit and its second one. -/
structure Pair.Denotes (pair : Pair) (byte : UInt8) : Prop where
  blank : ∀ c ∈ pair.before, c ∈ blanks
  digits : ∃ high low, Worth pair.high high ∧ Worth pair.low low ∧ byte.toNat = 16 * high + low

/-- A text that is one pair for each byte, and blanks at the end. -/
def Spells (cs : List Char) (bytes : List UInt8) : Prop :=
  ∃ (pairs : List Pair) (tail : List Char), cs = pairs.flatMap Pair.text ++ tail ∧
    List.Forall₂ Pair.Denotes pairs bytes ∧ ∀ c ∈ tail, c ∈ blanks

variable {cs : List Char} {bytes : List UInt8}

theorem spells_nil : Spells [] [] := ⟨[], [], rfl, .nil, List.forall_mem_nil _⟩

theorem Spells.blank (spelled : Spells cs bytes) {c : Char} (blank : c ∈ blanks) :
    Spells (c :: cs) bytes := by
  obtain ⟨pairs, tail, rfl, each, clear⟩ := spelled
  -- The blank joins those before the first pair, or those at the end.
  cases each with
  | nil => exact ⟨[], c :: tail, rfl, .nil, List.forall_mem_cons.2 ⟨blank, clear⟩⟩
  | @cons pair byte pairs bytes first rest =>
    refine ⟨{ pair with before := c :: pair.before } :: pairs, tail, rfl, .cons ?_ rest, clear⟩
    exact ⟨List.forall_mem_cons.2 ⟨blank, first.blank⟩, first.digits⟩

theorem toNat_byteOfDigits {high low : Nat} (first : high < 16) (second : low < 16) :
    (byteOfDigits high low).toNat = 16 * high + low := by
  rw [byteOfDigits, UInt8.toNat_ofNat', Nat.mod_eq_of_lt (by omega)]

theorem Spells.pair (spelled : Spells cs bytes) {first second : Char} {high low : Nat}
    (left : Worth first high) (right : Worth second low) :
    Spells (first :: second :: cs) (byteOfDigits high low :: bytes) := by
  obtain ⟨pairs, tail, rfl, each, clear⟩ := spelled
  have byte := toNat_byteOfDigits (worth_lt left) (worth_lt right)
  refine ⟨⟨[], first, second⟩ :: pairs, tail, rfl, .cons ?_ each, clear⟩
  exact ⟨List.forall_mem_nil _, high, low, left, right, byte⟩

theorem Pair.Denotes.ascii {pair : Pair} {byte : UInt8} (denotes : pair.Denotes byte) :
    ∀ c ∈ pair.text, c.toNat < 128 := by
  intro c written
  obtain ⟨high, low, left, right, _⟩ := denotes.digits
  rcases List.mem_append.1 written with before | digits
  · exact ascii_of_blank (denotes.blank c before)
  · rcases List.mem_pair.1 digits with rfl | rfl
    · exact ascii_of_worth left
    · exact ascii_of_worth right

theorem Spells.ascii (spelled : Spells cs bytes) : ∀ c ∈ cs, c.toNat < 128 := by
  obtain ⟨pairs, tail, rfl, each, clear⟩ := spelled
  induction each with
  | nil => exact fun c last => ascii_of_blank (clear c last)
  | cons first _ ih =>
    rw [List.flatMap_cons, List.append_assoc]
    exact List.forall_mem_append.2 ⟨first.ascii, ih⟩

/-! ## The reader -/

theorem readPairs_blanks {run : List Char} (clear : ∀ c ∈ run, c ∈ blanks) (rest : List Char) :
    readPairs (run ++ rest) = readPairs rest := by
  induction run with
  | nil => rfl
  | cons c more ih =>
    obtain ⟨blank, others⟩ := List.forall_mem_cons.1 clear
    rw [List.cons_append, readPairs, if_pos (isAsciiBlank_iff.2 blank), ih others]

theorem readPairs_pair {first second : Char} {high low : Nat} (left : Worth first high)
    (right : Worth second low) (rest : List Char) :
    readPairs (first :: second :: rest) =
      (readPairs rest).map (byteOfDigits high low :: ·) := by
  rw [readPairs, not_isAsciiBlank_of_worth left]
  simp only [Bool.false_eq_true, ↓reduceIte, hexDigit?_eq_some.2 left, hexDigit?_eq_some.2 right]

theorem Pair.Denotes.readPairs_append {pair : Pair} {byte : UInt8} (denotes : pair.Denotes byte)
    (rest : List Char) :
    readPairs (pair.text ++ rest) = (readPairs rest).map (byte :: ·) := by
  obtain ⟨high, low, left, right, same⟩ := denotes.digits
  have own : byteOfDigits high low = byte := by
    rw [← UInt8.toNat_inj, toNat_byteOfDigits (worth_lt left) (worth_lt right), same]
  rw [Pair.text, List.append_assoc, readPairs_blanks denotes.blank, ← own]
  exact readPairs_pair left right rest

theorem readPairs_of_spells (spelled : Spells cs bytes) : readPairs cs = .ok bytes := by
  obtain ⟨pairs, tail, rfl, each, clear⟩ := spelled
  induction each with
  | nil =>
    have ended := readPairs_blanks clear []
    rwa [List.append_nil] at ended
  | cons first _ ih =>
    rw [List.flatMap_cons, List.append_assoc, first.readPairs_append, ih]
    rfl

theorem spells_of_readPairs (read : readPairs cs = .ok bytes) : Spells cs bytes := by
  fun_induction readPairs cs generalizing bytes with
  | case1 =>
    cases read
    exact spells_nil
  | case2 c rest blank ih => exact (ih read).blank (isAsciiBlank_iff.1 blank)
  | case3 | case4 | case5 => cases read
  | case6 c _ high left d more low right ih =>
    cases others : readPairs more with
    | error position =>
      rw [others] at read
      cases read
    | ok found =>
      rw [others] at read
      cases read
      exact (ih others).pair (hexDigit?_eq_some.1 left) (hexDigit?_eq_some.1 right)

theorem filterMap_points (s : String) : (Text.whole s).points.filterMap Point.char? = s.toList := by
  simp [Text.points, List.filterMap_map, Function.comp_def, Point.char?]

theorem points_ascii (s : String) :
    ((Text.whole s).points.all fun point => point.code < 128) = s.toList.all (·.toNat < 128) := by
  simp only [Text.points, List.all_map]
  rfl

-- The code of half of a pair is far from ASCII.
theorem not_ascii_broken (before : List Char) (h : Half) (after : List Point) :
    ((Text.broken before h after).points.all fun point => point.code < 128) = false := by
  rw [List.all_eq_false]
  refine ⟨.half h, List.mem_append_right _ List.mem_cons_self, ?_⟩
  have large : ¬0xd800 + h.place.val < 128 := by omega
  exact fun small => large (of_decide_eq_true small)

def Spelled (t : Text) (bytes : List UInt8) : Prop :=
  ∃ s : String, t = .whole s ∧ Spells s.toList bytes

/-- A text is read exactly if it is one of the grammar, as the bytes that it spells. -/
theorem decode_eq_ok {t : Text} : decode t = .ok bytes ↔ Spelled t bytes := by
  cases t with
  | broken before h after =>
    rw [decode, not_ascii_broken]
    constructor
    · exact fun read => nomatch read
    · rintro ⟨s, same, _⟩
      cases same
  | whole s =>
    rw [decode, points_ascii, filterMap_points]
    constructor
    · intro read
      split at read
      · simp only at read
        split at read
        · next found pairs =>
          cases read
          exact ⟨s, rfl, spells_of_readPairs pairs⟩
        · cases read
      · cases read
    · rintro ⟨same, named, spelled⟩
      obtain rfl : s = same := Text.whole.inj named
      have ascii : (s.toList.all fun c => c.toNat < 128) = true := by
        simpa using spelled.ascii
      simp only [ascii, ↓reduceIte, readPairs_of_spells spelled]

theorem Spells.unique {other : List UInt8} (spelled : Spells cs bytes) (also : Spells cs other) :
    bytes = other :=
  Except.ok.inj ((readPairs_of_spells spelled).symm.trans (readPairs_of_spells also))

/-! ## Bytes as texts -/

theorem worth_hexDigit (n : Nat) :
    Worth (Text.hexDigit n) (n % 16) ∧ Worth (Text.hexDigit n).toUpper (n % 16) := by
  have table : ∀ d < 16, Worth (Text.hexDigit d) d ∧ Worth (Text.hexDigit d).toUpper d := by decide
  have least := table (n % 16) (Nat.mod_lt n (by decide))
  rwa [show Text.hexDigit (n % 16) = Text.hexDigit n by simp [Text.hexDigit]] at least

theorem toList_encode (bytes : List UInt8) :
    (encode bytes).toList =
      bytes.flatMap fun byte => [Text.hexDigit (byte.toNat / 16), Text.hexDigit byte.toNat] := by
  rw [encode, String.toList_ofList]
  rfl

-- A way to write digits that keeps their worth gives texts of the grammar.
theorem spells_written {write : Nat → Char} (worth : ∀ n, Worth (write n) (n % 16))
    (bytes : List UInt8) :
    Spells (bytes.flatMap fun byte => [write (byte.toNat / 16), write byte.toNat]) bytes := by
  induction bytes with
  | nil => exact spells_nil
  | cons byte rest ih =>
    have small := byte.toNat_lt
    have own : byteOfDigits (byte.toNat / 16 % 16) (byte.toNat % 16) = byte := by
      rw [← UInt8.toNat_inj, toNat_byteOfDigits (Nat.mod_lt _ (by decide)) (Nat.mod_lt _ (by decide))]
      omega
    have spelled := ih.pair (worth (byte.toNat / 16)) (worth byte.toNat)
    rwa [own] at spelled

theorem spells_encode (bytes : List UInt8) : Spells (encode bytes).toList bytes := by
  rw [toList_encode]
  exact spells_written (fun n => (worth_hexDigit n).1) bytes

theorem spells_toUpper_encode (bytes : List UInt8) :
    Spells (encode bytes).toUpper.toList bytes := by
  have upper : (encode bytes).toUpper.toList = bytes.flatMap fun byte =>
      [(Text.hexDigit (byte.toNat / 16)).toUpper, (Text.hexDigit byte.toNat).toUpper] := by
    rw [String.toUpper, String.toList_map, toList_encode, List.map_flatMap]
    rfl
  rw [upper]
  exact spells_written (fun n => (worth_hexDigit n).2) bytes

end TemporalNetwork.Hex
