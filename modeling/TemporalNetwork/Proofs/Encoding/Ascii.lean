import TemporalNetwork.Encoding.Utf8
import TemporalNetwork.Proofs.Json.RoundTrip

/-!
Texts in ASCII. They are their own bytes, and without returns their line ends are left alone. The
text of JSON in a file is such a text, whatever its strings hold.
-/

namespace TemporalNetwork

/-- In ASCII, and no return. -/
def IsAscii (c : Char) : Prop := c.toNat < 0x80 ∧ c ≠ '\r'

instance (c : Char) : Decidable (IsAscii c) := inferInstanceAs (Decidable (_ ∧ _))

namespace Utf8

theorem decodeFrom_ascii {text : List Char} (ascii : ∀ c ∈ text, IsAscii c) (position : Nat)
    (read : List Char) : decodeFrom position read (encode text) = .ok (read.reverse ++ text) := by
  induction text generalizing position read with
  | nil => simp [encode, decodeFrom]
  | cons c rest ih =>
    have small := (ascii c List.mem_cons_self).1
    have later := fun other member => ascii other (List.mem_cons_of_mem c member)
    have byte : (UInt8.ofNat c.toNat).toNat = c.toNat := UInt8.toNat_ofNat_of_lt' (by
      rw [show UInt8.size = 256 from rfl]
      omega)
    -- A byte below 0x80 is a character of its own.
    have lead : UInt8.ofNat c.toNat < 0x80 := by
      rw [UInt8.lt_iff_toNat_lt, byte]
      exact small
    have first : encode (c :: rest) = UInt8.ofNat c.toNat :: encode rest := by
      simp [encode, encodeChar, small]
    rw [first, decodeFrom, if_pos lead, byte, Char.ofNat_toNat, ih later]
    simp

theorem decode_encode_ascii {text : List Char} (ascii : ∀ c ∈ text, IsAscii c) :
    decode (encode text) = .ok text :=
  decodeFrom_ascii ascii 0 []

theorem unifyLineEnds_ascii {text : List Char} (ascii : ∀ c ∈ text, IsAscii c) (read : List Char) :
    unifyLineEnds read text = read.reverse ++ text := by
  induction text generalizing read with
  | nil => simp [unifyLineEnds]
  | cons c rest ih =>
    have plain := (ascii c List.mem_cons_self).2
    rw [unifyLineEnds]
    · rw [if_neg plain, ih fun other member => ascii other (List.mem_cons_of_mem c member)]
      simp
    · intro more same
      exact absurd same plain

theorem universalNewlines_ascii {text : List Char} (ascii : ∀ c ∈ text, IsAscii c) :
    universalNewlines text = text :=
  unifyLineEnds_ascii ascii []

end Utf8

namespace Json

/-! ## Escapes -/

-- A given text is checked character by character.
theorem ascii_of_all {text : List Char} (checked : text.all (IsAscii ·) = true) :
    ∀ c ∈ text, IsAscii c := by
  simpa using checked

theorem ascii_digit {c : Char} (digit : c.isDigit = true) : IsAscii c := by
  have low : c.toNat ≤ '9'.toNat := by
    simp only [Char.isDigit, Bool.and_eq_true, decide_eq_true_eq] at digit
    exact digit.2
  refine ⟨Nat.lt_of_le_of_lt low (by decide), ?_⟩
  rintro rfl
  exact absurd digit (by decide)

theorem ascii_hexDigit (d : Nat) : IsAscii (Text.hexDigit d) := by
  have few : ∀ n < 16, IsAscii (Text.hexDigit n) := by decide
  rw [← Text.hexDigit_mod]
  exact few (d % 16) (Nat.mod_lt d (by decide))

theorem ascii_unicodeEscape (unit : Nat) : ∀ c ∈ unicodeEscape unit, IsAscii c := by
  intro c member
  rw [unicodeEscape, Text.hexDigits_four] at member
  simp only [List.mem_cons, List.not_mem_nil, or_false] at member
  rcases member with rfl | rfl | rfl | rfl | rfl | rfl
  · decide
  · decide
  all_goals exact ascii_hexDigit _

theorem ascii_escapeControl {c : Char} (small : c.toNat < 0x7f) :
    ∀ other ∈ escapeControl c, IsAscii other := by
  rw [escapeControl]
  by_cases quote : c = '"'
  · rw [if_pos quote]
    exact ascii_of_all rfl
  by_cases slash : c = '\\'
  · rw [if_neg quote, if_pos slash]
    exact ascii_of_all rfl
  by_cases newline : c = '\n'
  · rw [if_neg quote, if_neg slash, if_pos newline]
    exact ascii_of_all rfl
  by_cases carriage : c = '\r'
  · rw [if_neg quote, if_neg slash, if_neg newline, if_pos carriage]
    exact ascii_of_all rfl
  rw [if_neg quote, if_neg slash, if_neg newline, if_neg carriage]
  split
  · exact ascii_of_all rfl
  · split
    · exact ascii_of_all rfl
    · split
      · exact ascii_of_all rfl
      · split
        · exact ascii_unicodeEscape c.toNat
        · intro other member
          rw [List.mem_singleton.1 member]
          exact ⟨by omega, carriage⟩

theorem ascii_escapeNonAscii (c : Char) : ∀ other ∈ escapeNonAscii c, IsAscii other := by
  rw [escapeNonAscii]
  split
  · next small => exact ascii_escapeControl small
  · intro other member
    obtain ⟨unit, _, inside⟩ := List.mem_flatMap.1 member
    exact ascii_unicodeEscape unit other inside

/-! ## Values -/

theorem ascii_ofInt (n : Int) : ∀ c ∈ (Decimal.ofInt n).toList, IsAscii c := by
  have digits : ∀ m, ∀ c ∈ Decimal.digits m, IsAscii c := fun m c member =>
    ascii_digit (Decimal.isDigit_of_mem_digits m c member)
  cases n with
  | ofNat m => simpa [Decimal.ofInt, Decimal.ofNat] using digits m
  | negSucc m =>
    simp only [Decimal.ofInt, Decimal.ofNat, String.toList_append, String.toList_ofList,
      List.mem_append]
    rintro c (minus | digit)
    · have same : c = '-' := by simpa using minus
      rw [same]
      decide
    · exact digits (m + 1) c digit

theorem ascii_point (point : Point) : ∀ c ∈ Style.file.point point, IsAscii c := by
  cases point with
  | char c => exact ascii_escapeNonAscii c
  | half h => exact ascii_unicodeEscape h.code

theorem ascii_string (t : Text) : ∀ c ∈ Style.file.string t, IsAscii c := by
  intro c member
  simp only [Style.string, List.cons_append, List.mem_cons, List.mem_append, List.not_mem_nil,
    or_false, List.mem_flatMap] at member
  rcases member with quote | ⟨other, _, inside⟩ | quote
  · rw [quote]
    decide
  · exact ascii_point other c inside
  · rw [quote]
    decide

theorem ascii_break (level : Nat) : ∀ c ∈ Style.file.break level, IsAscii c := by
  intro c member
  simp only [Style.break, Style.file, List.mem_cons, List.mem_replicate] at member
  rcases member with newline | ⟨_, space⟩
  · rw [newline]
    decide
  · rw [space]
    decide

theorem mem_joined {separator : List Char} {texts : List (List Char)} {c : Char}
    (member : c ∈ joined separator texts) : c ∈ separator ∨ ∃ text ∈ texts, c ∈ text := by
  induction texts with
  | nil => cases member
  | cons first rest ih =>
    cases rest with
    | nil =>
      rw [joined_singleton] at member
      exact .inr ⟨first, List.mem_cons_self, member⟩
    | cons next others =>
      simp only [joined_cons_cons, List.mem_append] at member
      rcases member with own | between | later
      · exact .inr ⟨first, List.mem_cons_self, own⟩
      · exact .inl between
      · rcases ih later with between | ⟨text, inside, own⟩
        · exact .inl between
        · exact .inr ⟨text, List.mem_cons_of_mem first inside, own⟩

theorem ascii_enclose (level : Nat) {left right : Char} (brackets : IsAscii left ∧ IsAscii right)
    {texts : List (List Char)} (ascii : ∀ text ∈ texts, ∀ c ∈ text, IsAscii c) :
    ∀ c ∈ Style.file.enclose level left right texts, IsAscii c := by
  intro c member
  cases texts with
  | nil =>
    simp only [Style.enclose, List.isEmpty_nil, ↓reduceIte, List.mem_cons, List.not_mem_nil,
      or_false] at member
    rcases member with same | same
    · exact same ▸ brackets.1
    · exact same ▸ brackets.2
  | cons text rest =>
    simp only [enclose_cons, List.mem_cons, List.mem_append, List.not_mem_nil, or_false] at member
    rcases member with same | opening | inside | closing | same
    · exact same ▸ brackets.1
    · exact ascii_break (level + 1) c opening
    · rcases mem_joined inside with between | ⟨own, among, inOwn⟩
      · rcases List.mem_cons.1 between with comma | blank
        · rw [comma]
          decide
        · exact ascii_break (level + 1) c blank
      · exact ascii own among c inOwn
    · exact ascii_break level c closing
    · exact same ▸ brackets.2

mutual

theorem ascii_render (json : Json) (plain : json.IsPlain) (level : Nat) :
    ∀ c ∈ render .file level json, IsAscii c :=
  match json with
  | .null | .bool true | .bool false => ascii_of_all rfl
  | .int n => ascii_ofInt n
  | .float _ => plain.elim
  | .string t => ascii_string t
  | .array items =>
    ascii_enclose level (by decide) (ascii_renderItems items plain (level + 1))
  | .object fields =>
    ascii_enclose level (by decide) (ascii_renderFields fields plain.1 (level + 1))

theorem ascii_renderItems (items : List Json) (plain : ArePlain items) (level : Nat) :
    ∀ text ∈ renderItems .file level items, ∀ c ∈ text, IsAscii c :=
  match items with
  | [] => fun _ member => absurd member List.not_mem_nil
  | item :: rest => by
    rw [renderItems, List.forall_mem_cons]
    exact ⟨ascii_render item plain.1 level, ascii_renderItems rest plain.2 level⟩

theorem ascii_renderFields (fields : List (Text × Json)) (plain : FieldsArePlain fields)
    (level : Nat) : ∀ text ∈ renderFields .file level fields, ∀ c ∈ text, IsAscii c :=
  match fields with
  | [] => fun _ member => absurd member List.not_mem_nil
  | (name, value) :: rest => by
    rw [renderFields, List.forall_mem_cons]
    refine ⟨?_, ascii_renderFields rest plain.2 level⟩
    intro c member
    simp only [List.mem_append, List.mem_cons] at member
    rcases member with inName | colon | space | inValue
    · exact ascii_string name c inName
    · rw [colon]
      decide
    · rw [space]
      decide
    · exact ascii_render value plain.1 level c inValue

end

end Json

end TemporalNetwork
