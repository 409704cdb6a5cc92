import TemporalNetwork.Proofs.Json.Strings

/-!
Halves of pairs in JSON that was read. The reader makes one character of two halves that make up a
pair, so it never leaves them side by side: a half that stands in a text was alone. Main statement: all
texts of JSON that was read are free of pairs.
-/

namespace TemporalNetwork.Json

variable {read : List Point} {opened : Nat}

mutual

def IsPairFree : Json → Prop
  | .string t => PairFree t
  | .array items => ArePairFree items
  | .object fields => FieldsArePairFree fields
  | _ => True

def ArePairFree : List Json → Prop
  | [] => True
  | item :: rest => IsPairFree item ∧ ArePairFree rest

def FieldsArePairFree : List (Text × Json) → Prop
  | [] => True
  | (name, value) :: rest => PairFree name ∧ IsPairFree value ∧ FieldsArePairFree rest

end

/-! ## Strings -/

/-- A point is read from two units that make up a pair, or from a unit that none completes. -/
theorem readUnicode_cases {cs : List Char} {point : Point} {taken : Nat}
    (found : readUnicode cs = .ok (point, taken)) :
    5 ≤ cs.length ∧ ∃ unit, quad? cs = some unit ∧
      ((∃ c, point = .char c) ∨ (point = .ofUnit unit ∧ taken = 4 ∧
        (isHighSurrogate unit = true → ∀ behind, cs.drop 4 = '\\' :: 'u' :: behind →
          5 ≤ behind.length → ∃ low, quad? behind = some low ∧ isLowSurrogate low = false))) := by
  rw [readUnicode] at found
  split at found
  · cases found
  · next long =>
    refine ⟨Nat.not_lt.1 long, ?_⟩
    split at found
    · cases found
    · next unit first =>
      refine ⟨unit, first, ?_⟩
      simp only at found
      split at found
      · split at found
        · cases found
        · next low second =>
          split at found
          · cases found
            exact .inl ⟨_, rfl⟩
          · next other =>
            cases found
            refine .inr ⟨rfl, rfl, fun _ behind goes _ => ⟨low, ?_, by simpa using other⟩⟩
            rw [← second, goes]
            rfl
      · next single =>
        cases found
        refine .inr ⟨rfl, rfl, fun high behind goes room => absurd ?_ single⟩
        simp [high, goes, room]

-- A first half is read alone only where no second one comes after it.
theorem low_of_readUnicode {cs behind : List Char} {point second : Point} {taken more : Nat}
    (found : readUnicode cs = .ok (point, taken)) (high : isHighSurrogate point.code = true)
    (goes : cs.drop taken = '\\' :: 'u' :: behind)
    (next : readUnicode behind = .ok (second, more)) : isLowSurrogate second.code = false := by
  obtain ⟨_, unit, _, ⟨c, rfl⟩ | ⟨rfl, rfl, single⟩⟩ := readUnicode_cases found
  · simp [Point.code] at high
  · obtain ⟨room, low, own, ⟨c, rfl⟩ | ⟨rfl, _⟩⟩ := readUnicode_cases next
    · exact isLowSurrogate_toNat c
    · rw [(isSurrogate_ofUnit unit).1] at high
      obtain ⟨other, same, notLow⟩ := single high behind goes room
      rw [own, Option.some.injEq] at same
      rw [(isSurrogate_ofUnit low).2, same, notLow]

/-- The points that were read, the last of which comes first, make up no pairs, nor does the last one
with a point behind it. -/
structure Unfinished (read : List Point) (text : List Char) : Prop where
  unpaired : read.IsChain fun q p => Unpaired p q
  last : ∀ p ∈ read.head?, isHighSurrogate p.code = true → ∀ behind point taken,
    text = '\\' :: 'u' :: behind → readUnicode behind = .ok (point, taken) →
      isLowSurrogate point.code = false

theorem Unfinished.char {text : List Char} (before : Unfinished read text) (c : Char)
    (rest : List Char) : Unfinished (.char c :: read) rest where
  unpaired := List.isChain_cons.2 ⟨fun _ _ _ => isLowSurrogate_toNat c, before.unpaired⟩
  last p same high := by
    obtain rfl : .char c = p := by simpa using same
    simp [Point.code] at high

theorem pairFree_readString {cs rest : List Char} {t : Text} (before : Unfinished read cs)
    (found : readString opened read cs = .ok (t, rest)) : PairFree t := by
  fun_induction readString opened read cs with
  | case1 => cases found
  | case2 read rest =>
    cases found
    rw [PairFree, Text.points_ofPoints, List.isChain_reverse]
    exact before.unpaired
  | case3 => cases found
  | case4 => cases found
  | case5 read text point taken unicode ih =>
    refine ih ⟨?_, ?_⟩ found
    · refine List.isChain_cons.2 ⟨fun p last high => ?_, before.unpaired⟩
      exact before.last p last high text point taken rfl unicode
    · intro p same high behind second more goes next
      obtain rfl : point = p := by simpa using same
      exact low_of_readUnicode unicode high goes next
  | case6 read c text _ meant _ ih => exact ih (before.char meant text) found
  | case7 => cases found
  | case8 => cases found
  | case9 read c text quote alone _ escape _ ih => exact ih (before.char c text) found

theorem unfinished_nil (text : List Char) : Unfinished [] text where
  unpaired := .nil
  last _ none := nomatch none

/-! ## Values -/

theorem arePairFree_iff (items : List Json) :
    ArePairFree items ↔ ∀ item ∈ items, item.IsPairFree := by
  induction items with
  | nil => simp [ArePairFree]
  | cons item rest ih => simp [ArePairFree, ih]

theorem fieldsArePairFree_iff (fields : List (Text × Json)) :
    FieldsArePairFree fields ↔ ∀ field ∈ fields, PairFree field.1 ∧ field.2.IsPairFree := by
  induction fields with
  | nil => simp [FieldsArePairFree]
  | cons field rest ih => simp [FieldsArePairFree, ih, and_assoc]

theorem fieldsArePairFree_setField {fields : List (Text × Json)} {name : Text} {value : Json}
    (free : FieldsArePairFree fields) (own : PairFree name) (given : value.IsPairFree) :
    FieldsArePairFree (setField fields name value) := by
  induction fields with
  | nil => exact ⟨own, given, trivial⟩
  | cons field rest ih =>
    obtain ⟨known, old⟩ := field
    obtain ⟨first, before, others⟩ := free
    rw [setField]
    split
    · exact ⟨first, given, others⟩
    · exact ⟨first, before, ih others⟩

theorem isPairFree_field? {fields : List (Text × Json)} {name : Text} {found : Json}
    (free : FieldsArePairFree fields) (member : field? fields name = some found) :
    found.IsPairFree := by
  obtain ⟨field, inside, rfl⟩ := Option.map_eq_some_iff.1 member
  exact ((fieldsArePairFree_iff fields).1 free field (List.mem_of_find?_eq_some inside)).2

theorem isPairFree_readNumber {cs rest : List Char} {json : Json}
    (found : readNumber cs = .ok (json, rest)) : json.IsPairFree := by
  rw [readNumber.eq_def] at found
  split at found
  simp only at found
  split at found
  · cases found
  · split at found
    · cases found
      trivial
    · split at found
      · split at found
        · cases found
        · cases found
          trivial
      · cases found
        trivial

theorem isPairFree_readPlain {cs rest : List Char} {json : Json}
    (found : readPlain cs = .ok (json, rest)) : json.IsPairFree := by
  rw [readPlain] at found
  split at found
  · next word value known =>
    cases found
    have all : ∀ constant ∈ constants, constant.2.IsPairFree := by
      simp [constants, IsPairFree]
    exact all _ (List.mem_of_find?_eq_some known)
  · exact isPairFree_readNumber found

mutual

theorem isPairFree_readValue (steps depth : Nat) (cs : List Char) {json : Json} {rest : List Char}
    (found : readValue steps depth cs = .ok (json, rest)) : json.IsPairFree := by
  match steps with
  | 0 => cases found
  | steps + 1 =>
    rw [readValue.eq_def] at found
    simp only at found
    split at found
    · next text =>
      rw [Except.map.eq_def] at found
      split at found
      · cases found
      · next own =>
        cases found
        exact pairFree_readString (unfinished_nil text) own
    · split at found
      · cases found
      · split at found
        · cases found
          trivial
        · exact isPairFree_readItems steps _ [] _ trivial found
    · split at found
      · cases found
      · split at found
        · cases found
          trivial
        · exact isPairFree_readFields steps _ [] _ trivial found
    · exact isPairFree_readPlain found
termination_by steps

theorem isPairFree_readItems (steps depth : Nat) (read : List Json) (cs : List Char)
    {json : Json} {rest : List Char} (before : ArePairFree read)
    (found : readItems steps depth read cs = .ok (json, rest)) : json.IsPairFree := by
  match steps with
  | 0 => cases found
  | steps + 1 =>
    rw [readItems.eq_def] at found
    simp only at found
    split at found
    · cases found
    · next item behind first =>
      have all : ArePairFree (item :: read) := ⟨isPairFree_readValue steps depth cs first, before⟩
      split at found
      · cases found
        rw [IsPairFree, arePairFree_iff]
        exact fun other member => (arePairFree_iff _).1 all other (List.mem_reverse.1 member)
      · exact isPairFree_readItems steps depth _ _ all found
      · cases found
termination_by steps

theorem isPairFree_readFields (steps depth : Nat) (read : List (Text × Json)) (cs : List Char)
    {json : Json} {rest : List Char} (before : FieldsArePairFree read)
    (found : readFields steps depth read cs = .ok (json, rest)) : json.IsPairFree := by
  match steps with
  | 0 => cases found
  | steps + 1 =>
    rw [readFields.eq_def] at found
    simp only at found
    split at found
    · next text =>
      split at found
      · cases found
      · next name behind named =>
        split at found
        · next more colon =>
          split at found
          · cases found
          · next value behindValue given =>
            have all := fieldsArePairFree_setField before
              (pairFree_readString (unfinished_nil text) named)
              (isPairFree_readValue steps depth (skip more) given)
            split at found
            · cases found
              exact all
            · exact isPairFree_readFields steps depth _ _ all found
            · cases found
        · cases found
    · cases found
termination_by steps

end

/-- In JSON that was read no text has a first half directly before a second one. -/
theorem isPairFree_parse {cs : List Char} {json : Json} (parsed : parse cs = .ok json) :
    json.IsPairFree := by
  rw [parse.eq_def] at parsed
  split at parsed
  · cases parsed
  · split at parsed
    · cases parsed
    · next value rest found =>
      split at parsed
      · cases parsed
        exact isPairFree_readValue _ _ _ found
      · cases parsed

end TemporalNetwork.Json
