import Mathlib.Data.List.Chain
import TemporalNetwork.Json.Parser
import TemporalNetwork.Json.Printer

/-!
Strings are read back from their escaped text: every character from its own escape, a character
outside the first plane from a pair of surrogates.
-/

namespace TemporalNetwork

namespace Text

theorem hexDigit_mod (d : Nat) : hexDigit (d % 16) = hexDigit d := by
  rw [hexDigit, hexDigit, Nat.mod_mod]

theorem hexDigit?_hexDigit_mod (d : Nat) : hexDigit? (hexDigit d) = some (d % 16) := by
  rw [← hexDigit_mod]
  exact hexDigit?_hexDigit (d % 16) (Nat.mod_lt d (by decide))

theorem hexDigits_four (n : Nat) :
    hexDigits 4 n =
      [hexDigit (n / 4096), hexDigit (n / 256), hexDigit (n / 16), hexDigit n] := by
  simp [hexDigits, Nat.div_div_eq_div_mul]

end Text

namespace Json

/-! ## Units and points -/

variable {n unit : Nat} {c : Char} {rest : List Char} {read : List Point} {opened : Nat}

theorem quad?_hexDigits (small : n < 0x10000) (rest : List Char) :
    quad? (Text.hexDigits 4 n ++ rest) = some n := by
  rw [Text.hexDigits_four]
  simp only [List.cons_append, List.nil_append, quad?, Text.hexDigit?_hexDigit_mod,
    Option.bind_eq_bind, Option.bind_some, Option.some.injEq]
  omega

-- No character is half of a pair.
theorem toNat_valid (c : Char) : c.toNat < 0xd800 ∨ (0xdfff < c.toNat ∧ c.toNat < 0x110000) :=
  c.valid

@[simp] theorem isHighSurrogate_toNat (c : Char) : isHighSurrogate c.toNat = false := by
  have valid := toNat_valid c
  simp only [isHighSurrogate, Bool.and_eq_false_iff, decide_eq_false_iff_not]
  omega

@[simp] theorem isLowSurrogate_toNat (c : Char) : isLowSurrogate c.toNat = false := by
  have valid := toNat_valid c
  simp only [isLowSurrogate, Bool.and_eq_false_iff, decide_eq_false_iff_not]
  omega

theorem ofUnit_toNat (c : Char) : Point.ofUnit c.toNat = .char c := by
  have valid := toNat_valid c
  rw [Point.ofUnit, dif_neg (by omega), Char.ofNat_toNat]

theorem ofUnit_code (h : Half) : Point.ofUnit h.code = .half h := by
  have := h.place.isLt
  have surrogate : 0xd800 ≤ h.code ∧ h.code < 0xe000 := by
    rw [Half.code]
    omega
  rw [Point.ofUnit, dif_pos surrogate]
  simp [Half.code]

theorem code_lt (h : Half) : h.code < 0x10000 := by
  have := h.place.isLt
  rw [Half.code]
  omega

theorem isSurrogate_ofUnit (unit : Nat) :
    isHighSurrogate (Point.ofUnit unit).code = isHighSurrogate unit ∧
      isLowSurrogate (Point.ofUnit unit).code = isLowSurrogate unit := by
  rw [Point.ofUnit]
  split
  · next surrogate =>
    have same : Point.code (.half ⟨unit - 0xd800, by omega⟩) = unit := by
      simp only [Point.code, Half.code]
      omega
    rw [same]
    exact ⟨rfl, rfl⟩
  · next outside =>
    constructor
    · rw [Point.code, isHighSurrogate_toNat, eq_comm]
      simp only [isHighSurrogate, Bool.and_eq_false_iff, decide_eq_false_iff_not]
      omega
    · rw [Point.code, isLowSurrogate_toNat, eq_comm]
      simp only [isLowSurrogate, Bool.and_eq_false_iff, decide_eq_false_iff_not]
      omega

def Unpaired (p q : Point) : Prop :=
  isHighSurrogate p.code = true → isLowSurrogate q.code = false

/-- No first half stands directly before a second one: what is written of a text reads as the same
text. -/
def PairFree (t : Text) : Prop := t.points.IsChain Unpaired

@[simp] theorem pairFree_whole (s : String) : PairFree (.whole s) := by
  simp only [PairFree, Text.points, List.isChain_map]
  induction s.toList with
  | nil => exact .nil
  | cons c rest ih => exact List.isChain_cons.2 ⟨fun d _ _ => isLowSurrogate_toNat d, ih⟩

/-! ## Escapes of units -/

/-- What does not go on as the second half of a pair. -/
def Apart (text : List Char) : Prop :=
  ∀ rest, text = '\\' :: 'u' :: rest → ∃ unit, quad? rest = some unit ∧ isLowSurrogate unit = false

theorem apart_unicodeEscape (small : unit < 0x10000) (other : isLowSurrogate unit = false)
    (rest : List Char) : Apart (unicodeEscape unit ++ rest) := by
  intro behind same
  rw [unicodeEscape, List.cons_append, List.cons_append] at same
  obtain rfl : Text.hexDigits 4 unit ++ rest = behind := by simpa using same
  exact ⟨unit, quad?_hexDigits small rest, other⟩

-- A point is read from one unit, if it is not taken for half of a pair. Some text has to follow.
theorem readUnicode_unit (small : unit < 0x10000) (follows : rest ≠ [])
    (alone : isHighSurrogate unit = true → Apart rest) :
    readUnicode (Text.hexDigits 4 unit ++ rest) = .ok (.ofUnit unit, 4) := by
  have some := List.length_pos_iff.2 follows
  have long : ¬(Text.hexDigits 4 unit ++ rest).length < 5 := by
    rw [List.length_append, Text.hexDigits_length]
    omega
  rw [readUnicode, if_neg long, quad?_hexDigits small]
  simp only [List.drop_left' (Text.hexDigits_length 4 unit)]
  split
  · next pair =>
    simp only [Bool.and_eq_true, decide_eq_true_eq] at pair
    obtain ⟨⟨high, _⟩, mark⟩ := pair
    obtain ⟨second, found, other⟩ := alone high (rest.drop 2) (by
      rw [← List.take_append_drop 2 rest, mark]
      rfl)
    rw [found]
    simp only [other, Bool.false_eq_true, ↓reduceIte]
  · rfl

-- A character beyond the first plane is read from its two units.
theorem readUnicode_pair (large : 0x10000 ≤ c.toNat) (follows : rest ≠ []) :
    readUnicode (Text.hexDigits 4 (0xd800 + (c.toNat - 0x10000) / 0x400) ++
        (unicodeEscape (0xdc00 + (c.toNat - 0x10000) % 0x400) ++ rest)) = .ok (.char c, 10) := by
  have valid := toNat_valid c
  have some := List.length_pos_iff.2 follows
  generalize first : 0xd800 + (c.toNat - 0x10000) / 0x400 = high
  generalize second : 0xdc00 + (c.toNat - 0x10000) % 0x400 = low
  have highUnit : isHighSurrogate high = true := by
    simp only [isHighSurrogate, Bool.and_eq_true, decide_eq_true_eq]
    omega
  have lowUnit : isLowSurrogate low = true := by
    simp only [isLowSurrogate, Bool.and_eq_true, decide_eq_true_eq]
    omega
  have joined : joinSurrogates high low = c := by
    have sum : 0x10000 + (high - 0xd800) * 0x400 + (low - 0xdc00) = c.toNat := by omega
    rw [joinSurrogates, sum, Char.ofNat_toNat]
  have long : ¬(Text.hexDigits 4 high ++ (unicodeEscape low ++ rest)).length < 5 := by
    simp only [List.length_append, Text.hexDigits_length, unicodeEscape, List.length_cons]
    omega
  have dropped : (Text.hexDigits 4 high ++ (unicodeEscape low ++ rest)).drop 4 =
      unicodeEscape low ++ rest := by
    rw [List.drop_left' (Text.hexDigits_length 4 high)]
  have room : 7 ≤ (unicodeEscape low ++ rest).length := by
    simp only [List.length_append, Text.hexDigits_length, unicodeEscape, List.length_cons]
    omega
  have mark : (unicodeEscape low ++ rest).take 2 = ['\\', 'u'] := rfl
  have later : (unicodeEscape low ++ rest).drop 2 = Text.hexDigits 4 low ++ rest := rfl
  rw [readUnicode, if_neg long, quad?_hexDigits (by omega)]
  simp only [dropped, highUnit, room, mark, later, quad?_hexDigits (show low < 0x10000 by omega),
    lowUnit, joined, decide_true, Bool.and_self, ↓reduceIte]

theorem readString_unicodeEscape (small : unit < 0x10000) (follows : rest ≠ [])
    (alone : isHighSurrogate unit = true → Apart rest) :
    readString opened read (unicodeEscape unit ++ rest) =
      readString opened (.ofUnit unit :: read) rest := by
  rw [unicodeEscape, List.cons_append, List.cons_append, readString,
    readUnicode_unit small follows alone]
  simp only [List.drop_left' (Text.hexDigits_length 4 unit)]

/-! ## One character -/

/-- A style escapes characters so that they can be read back, wherever some text follows, and so that
none goes on as the second half of a pair. -/
structure Style.Reads (style : Style) : Prop where
  char (c : Char) (opened : Nat) (read : List Point) (rest : List Char) (follows : rest ≠ []) :
    readString opened read (style.escape c ++ rest) = readString opened (.char c :: read) rest
  apart (c : Char) (rest : List Char) : Apart (style.escape c ++ rest)

theorem readString_charEscape (small : c.toNat < 0x10000) (follows : rest ≠ []) :
    readString opened read (unicodeEscape c.toNat ++ rest) =
      readString opened (.char c :: read) rest := by
  rw [readString_unicodeEscape small follows (by simp), ofUnit_toNat]

theorem readString_letter {letter : Char} (meant : simpleEscape? letter = some c) :
    readString opened read ('\\' :: letter :: rest) = readString opened (.char c :: read) rest := by
  have plain : letter ≠ 'u' := by
    intro same
    rw [same] at meant
    cases meant
  rw [readString]
  · rw [meant]
  · exact plain

theorem readString_char (quote : c ≠ '"') (slash : c ≠ '\\') (printable : ¬c.toNat < 0x20) :
    readString opened read (c :: rest) = readString opened (.char c :: read) rest := by
  rw [readString, if_neg printable]
  · exact quote
  · exact fun same _ => slash same
  · exact fun _ same _ => slash same
  · exact fun _ _ same _ => slash same

theorem readString_escapeControl (follows : rest ≠ []) :
    readString opened read (escapeControl c ++ rest) = readString opened (.char c :: read) rest := by
  by_cases quote : c = '"'
  · subst quote
    exact readString_letter rfl
  by_cases slash : c = '\\'
  · subst slash
    exact readString_letter rfl
  by_cases newline : c = '\n'
  · subst newline
    exact readString_letter rfl
  by_cases carriage : c = '\r'
  · subst carriage
    exact readString_letter rfl
  by_cases tab : c = '\t'
  · subst tab
    exact readString_letter rfl
  by_cases backspace : c.toNat = 8
  · have same : c = Char.ofNat 8 := by rw [← backspace, Char.ofNat_toNat]
    subst same
    exact readString_letter rfl
  by_cases feed : c.toNat = 12
  · have same : c = Char.ofNat 12 := by rw [← feed, Char.ofNat_toNat]
    subst same
    exact readString_letter rfl
  rw [escapeControl, if_neg quote, if_neg slash, if_neg newline, if_neg carriage, if_neg tab,
    if_neg backspace, if_neg feed]
  by_cases control : c.toNat < 0x20
  · rw [if_pos control]
    exact readString_charEscape (by omega) follows
  · rw [if_neg control]
    exact readString_char quote slash control

theorem readString_escapeNonAscii (follows : rest ≠ []) :
    readString opened read (escapeNonAscii c ++ rest) = readString opened (.char c :: read) rest := by
  rw [escapeNonAscii]
  by_cases ascii : c.toNat < 0x7f
  · rw [if_pos ascii]
    exact readString_escapeControl follows
  · rw [if_neg ascii, utf16Units]
    by_cases plane : c.toNat < 0x10000
    · rw [if_pos plane, List.flatMap_singleton]
      exact readString_charEscape plane follows
    · have pair := readUnicode_pair (Nat.not_lt.1 plane) follows
      rw [if_neg plane, List.flatMap_cons, List.flatMap_singleton, List.append_assoc,
        unicodeEscape, List.cons_append, List.cons_append, readString, pair]
      rfl

theorem apart_cons (other : c ≠ '\\') (rest : List Char) : Apart (c :: rest) := by
  intro behind same
  exact absurd (List.cons.inj same).1 other

theorem apart_letter {letter : Char} (plain : letter ≠ 'u') (rest : List Char) :
    Apart ('\\' :: letter :: rest) := by
  intro behind same
  exact absurd (List.cons.inj (List.cons.inj same).2).1 plain

theorem apart_escapeControl (c : Char) (rest : List Char) : Apart (escapeControl c ++ rest) := by
  rw [escapeControl]
  repeat' split
  all_goals first
    | exact apart_letter (by decide) rest
    | exact apart_unicodeEscape (by omega) (isLowSurrogate_toNat c) rest
    | skip
  exact apart_cons (by assumption) rest

theorem apart_escapeNonAscii (c : Char) (rest : List Char) : Apart (escapeNonAscii c ++ rest) := by
  have valid := toNat_valid c
  rw [escapeNonAscii]
  split
  · exact apart_escapeControl c rest
  · rw [utf16Units]
    split
    · next plane =>
      rw [List.flatMap_singleton]
      exact apart_unicodeEscape plane (isLowSurrogate_toNat c) rest
    · rw [List.flatMap_cons, List.append_assoc]
      apply apart_unicodeEscape (by omega)
      simp only [isLowSurrogate, Bool.and_eq_false_iff, decide_eq_false_iff_not]
      omega

theorem reads_file : Style.file.Reads where
  char _ _ _ _ := readString_escapeNonAscii
  apart := apart_escapeNonAscii

theorem reads_report : Style.report.Reads where
  char _ _ _ _ := readString_escapeControl
  apart := apart_escapeControl

/-! ## Whole strings -/

theorem apart_point {style : Style} (reads : style.Reads) {point : Point}
    (other : isLowSurrogate point.code = false) (rest : List Char) :
    Apart (style.point point ++ rest) := by
  cases point with
  | char c => exact reads.apart c rest
  | half h => exact apart_unicodeEscape (code_lt h) other rest

/-- Points that make up no pairs are read back up to the closing quote. -/
theorem readString_points {style : Style} (reads : style.Reads) {points : List Point}
    (free : points.IsChain Unpaired) (opened : Nat) (read : List Point) (rest : List Char) :
    readString opened read (points.flatMap style.point ++ '"' :: rest) =
      .ok (.ofPoints (read.reverse ++ points), rest) := by
  induction points generalizing read with
  | nil => rw [List.flatMap_nil, List.nil_append, readString, List.append_nil]
  | cons point others ih =>
    obtain ⟨next, behind⟩ := List.isChain_cons.1 free
    have follows : others.flatMap style.point ++ '"' :: rest ≠ [] := by simp
    have one : readString opened read
        (style.point point ++ (others.flatMap style.point ++ '"' :: rest)) =
          readString opened (point :: read) (others.flatMap style.point ++ '"' :: rest) := by
      cases point with
      | char c => exact reads.char c opened read _ follows
      | half h =>
        rw [Style.point, readString_unicodeEscape (code_lt h) follows, ofUnit_code]
        intro high
        cases others with
        | nil => exact apart_cons (by decide) rest
        | cons second more =>
          rw [List.flatMap_cons, List.append_assoc]
          exact apart_point reads (next second rfl high) _
    rw [List.flatMap_cons, List.append_assoc, one, ih behind]
    simp

end Json

end TemporalNetwork
