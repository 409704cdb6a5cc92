import TemporalNetwork.Json.Conversion
import TemporalNetwork.Proofs.Json.Numbers
import TemporalNetwork.Proofs.Json.Pairs

/-!
JSON is read back from its own text, in every layout. Left out are doubles; whole numbers have to be
short enough to be read, an object has one field of each name, no text holds both halves of a pair
one after the other, and values may be nested as deep as the reader goes. The proof follows the
value: an item is read up to the comma or the bracket behind it, and the steps and the depth of the
reader are enough for what is left of the text.
-/

namespace TemporalNetwork.Json

mutual

/-- What is read back from its own text, as far as its texts are. -/
def IsPlain : Json → Prop
  | .int n => Decimal.fits n = true
  | .float _ => False
  | .array items => ArePlain items
  | .object fields => FieldsArePlain fields ∧ (fields.map (·.1)).Nodup
  | _ => True

def ArePlain : List Json → Prop
  | [] => True
  | item :: rest => IsPlain item ∧ ArePlain rest

def FieldsArePlain : List (Text × Json) → Prop
  | [] => True
  | (_, value) :: rest => IsPlain value ∧ FieldsArePlain rest

end

mutual

def height : Json → Nat
  | .array items => heights items + 1
  | .object fields => fieldHeights fields + 1
  | _ => 0

def heights : List Json → Nat
  | [] => 0
  | item :: rest => max (height item) (heights rest)

def fieldHeights : List (Text × Json) → Nat
  | [] => 0
  | (_, value) :: rest => max (height value) (fieldHeights rest)

end

mutual

theorem isWritable_of_isPlain (json : Json) (plain : json.IsPlain) : json.isWritable = true :=
  match json with
  | .null | .bool _ | .float _ | .string _ => rfl
  | .int _ => plain
  | .array items => areWritable_of_arePlain items plain
  | .object fields => fieldsAreWritable_of_arePlain fields plain.1

theorem areWritable_of_arePlain (items : List Json) (plain : ArePlain items) :
    areWritable items = true :=
  match items with
  | [] => rfl
  | item :: rest => by
    rw [areWritable, isWritable_of_isPlain item plain.1, areWritable_of_arePlain rest plain.2]
    rfl

theorem fieldsAreWritable_of_arePlain (fields : List (Text × Json))
    (plain : FieldsArePlain fields) : fieldsAreWritable fields = true :=
  match fields with
  | [] => rfl
  | (_, value) :: rest => by
    rw [fieldsAreWritable, isWritable_of_isPlain value plain.1,
      fieldsAreWritable_of_arePlain rest plain.2]
    rfl

end

/-! ## Spaces between values -/

theorem skip_cons {c : Char} (ink : isSpace c = false) (rest : List Char) :
    skip (c :: rest) = c :: rest := by
  rw [skip, List.dropWhile_cons_of_neg (by simp [ink])]

theorem skip_break (style : Style) (level : Nat) {c : Char} (ink : isSpace c = false)
    (rest : List Char) : skip (style.break level ++ c :: rest) = c :: rest := by
  have blank : ∀ other ∈ style.break level, isSpace other = true := by
    intro other member
    rw [Style.break] at member
    cases given : style.indent with
    | none =>
      rw [given] at member
      cases member
    | some step =>
      rw [given] at member
      rcases List.mem_cons.1 member with newline | space
      · rw [newline]
        rfl
      · rw [List.eq_of_mem_replicate space]
        rfl
  rw [skip, List.dropWhile_append_of_pos blank]
  exact skip_cons ink rest

theorem ends_break (style : Style) (level : Nat) {c : Char}
    (apart : c.isDigit = false ∧ c ≠ '.' ∧ c ≠ 'e' ∧ c ≠ 'E') (rest : List Char) :
    Ends (style.break level ++ c :: rest) := by
  rw [Style.break]
  cases style.indent with
  | none => exact ends_cons apart
  | some step => exact ends_cons (by decide)

def joined (separator : List Char) (texts : List (List Char)) : List Char :=
  List.flatten (texts.intersperse separator)

theorem joined_singleton (separator text : List Char) : joined separator [text] = text := by
  simp [joined]

theorem joined_cons_cons (separator text next : List Char) (rest : List (List Char)) :
    joined separator (text :: next :: rest) =
      text ++ (separator ++ joined separator (next :: rest)) := by
  simp [joined]

theorem enclose_cons (style : Style) (level : Nat) (left right : Char) (text : List Char)
    (rest : List (List Char)) :
    style.enclose level left right (text :: rest) =
      left :: (style.break (level + 1) ++
        (joined (',' :: style.break (level + 1)) (text :: rest) ++
          (style.break level ++ [right]))) := by
  simp [Style.enclose, joined]

/-! ## The first character of a value -/

-- A digit is none of the characters that mean something else.
theorem digit_ne {c : Char} (digit : c.isDigit = true) {other : Char}
    (letter : other.isDigit = false) : c ≠ other := by
  intro same
  rw [same, letter] at digit
  cases digit

theorem ofInt_cons (n : Int) :
    (∃ c more, (Decimal.ofInt n).toList = c :: more ∧ c.isDigit = true) ∨
      ∃ c more, (Decimal.ofInt n).toList = '-' :: c :: more ∧ c.isDigit = true := by
  cases n with
  | ofNat m =>
    obtain ⟨c, more, digits, digit⟩ := Decimal.digits_cons m
    exact .inl ⟨c, more, by simp [Decimal.ofInt, Decimal.ofNat, digits], digit⟩
  | negSucc m =>
    obtain ⟨c, more, digits, digit⟩ := Decimal.digits_cons (m + 1)
    exact .inr ⟨c, more, by simp [Decimal.ofInt, Decimal.ofNat, digits], digit⟩

theorem string_append (style : Style) (t : Text) (rest : List Char) :
    style.string t ++ rest = '"' :: (t.points.flatMap style.point ++ '"' :: rest) := by
  simp [Style.string]

-- A value begins with no space, no closing bracket and no byte order mark.
theorem render_cons (style : Style) (level : Nat) {json : Json} (plain : json.IsPlain) :
    ∃ c more, render style level json = c :: more ∧ isSpace c = false ∧ c ≠ ']' ∧
      c ≠ '\ufeff' := by
  cases json with
  | null => exact ⟨'n', ['u', 'l', 'l'], rfl, by decide, by decide, by decide⟩
  | bool truth =>
    cases truth with
    | true => exact ⟨'t', ['r', 'u', 'e'], rfl, by decide, by decide, by decide⟩
    | false => exact ⟨'f', ['a', 'l', 's', 'e'], rfl, by decide, by decide, by decide⟩
  | int n =>
    rcases ofInt_cons n with ⟨c, more, text, digit⟩ | ⟨c, more, text, _⟩
    · refine ⟨c, more, text, ?_, digit_ne digit (by decide), digit_ne digit (by decide)⟩
      simp [isSpace, digit_ne digit (show ' '.isDigit = false by decide),
        digit_ne digit (show '\n'.isDigit = false by decide),
        digit_ne digit (show '\t'.isDigit = false by decide),
        digit_ne digit (show '\r'.isDigit = false by decide)]
    · exact ⟨'-', c :: more, text, by decide, by decide, by decide⟩
  | float x => exact plain.elim
  | string s => exact ⟨'"', _, rfl, by decide, by decide, by decide⟩
  | array items =>
    cases items with
    | nil => exact ⟨'[', _, rfl, by decide, by decide, by decide⟩
    | cons item rest =>
      exact ⟨'[', _, by rw [render, renderItems, enclose_cons], by decide, by decide, by decide⟩
  | object fields =>
    cases fields with
    | nil => exact ⟨'\x7b', _, rfl, by decide, by decide, by decide⟩
    | cons field rest =>
      exact ⟨'\x7b', _, by rw [render, renderFields, enclose_cons], by decide, by decide,
        by decide⟩

theorem skip_render (style : Style) (level : Nat) {json : Json} (plain : json.IsPlain)
    (rest : List Char) :
    skip (' ' :: (render style level json ++ rest)) = render style level json ++ rest := by
  obtain ⟨c, more, text, ink, _⟩ := render_cons style level plain
  rw [text]
  exact skip_cons ink _

theorem joined_cons (separator : List Char) (c : Char) (more : List Char)
    (rest : List (List Char)) :
    ∃ tail, joined separator ((c :: more) :: rest) = c :: tail := by
  cases rest with
  | nil => exact ⟨more, joined_singleton separator _⟩
  | cons next others => exact ⟨_, by rw [joined_cons_cons, List.cons_append]⟩

theorem items_cons (style : Style) (level : Nat) {item : Json} (plain : item.IsPlain)
    (others : List Json) :
    ∃ c more, joined (',' :: style.break level) (renderItems style level (item :: others)) =
      c :: more ∧ isSpace c = false ∧ c ≠ ']' := by
  obtain ⟨c, more, text, ink, apart, _⟩ := render_cons style level plain
  obtain ⟨tail, begins⟩ := joined_cons (',' :: style.break level) c more
    (renderItems style level others)
  exact ⟨c, tail, by rw [renderItems, text, begins], ink, apart⟩

theorem fields_cons (style : Style) (level : Nat) (field : Text × Json)
    (others : List (Text × Json)) :
    ∃ more, joined (',' :: style.break level) (renderFields style level (field :: others)) =
      '"' :: more := by
  obtain ⟨name, value⟩ := field
  rw [renderFields, string_append]
  exact joined_cons _ _ _ _

/-! ## Single steps of the reader -/

variable {steps depth : Nat} {rest more : List Char}

theorem readValue_plain {c : Char} (quote : c ≠ '"') (bracket : c ≠ '[') (brace : c ≠ '\x7b') :
    readValue (steps + 1) depth (c :: rest) = readPlain (c :: rest) := by
  rw [readValue]
  · exact fun _ same => quote (List.cons.inj same).1
  · exact fun _ same => bracket (List.cons.inj same).1
  · exact fun _ same => brace (List.cons.inj same).1

theorem readPlain_digit {c : Char} (digit : c.isDigit = true) :
    readPlain (c :: rest) = readNumber (c :: rest) := by
  have wordless : constants.find? (fun constant => constant.1.isPrefixOf (c :: rest)) = none := by
    rw [List.find?_eq_none]
    intro constant member begins
    obtain ⟨more, same⟩ := List.isPrefixOf_iff_prefix.1 begins
    simp only [constants, List.mem_cons, List.not_mem_nil, or_false] at member
    rcases member with first | first | first | first | first | first <;>
    · rw [first] at same
      exact digit_ne digit (by decide) (List.cons.inj same).1.symm
  rw [readPlain, wordless]

theorem readPlain_minus {c : Char} (digit : c.isDigit = true) :
    readPlain ('-' :: c :: rest) = readNumber ('-' :: c :: rest) := by
  have wordless :
      constants.find? (fun constant => constant.1.isPrefixOf ('-' :: c :: rest)) = none := by
    rw [List.find?_eq_none]
    intro constant member begins
    obtain ⟨more, same⟩ := List.isPrefixOf_iff_prefix.1 begins
    simp only [constants, List.mem_cons, List.not_mem_nil, or_false] at member
    rcases member with first | first | first | first | first | first <;> rw [first] at same
    all_goals first
      | exact absurd (List.cons.inj same).1 (by decide)
      | exact digit_ne digit (by decide) (List.cons.inj (List.cons.inj same).2).1.symm
  rw [readPlain, wordless]

theorem readValue_int (n : Int) (fits : Decimal.fits n = true) (ends : Ends rest) :
    readValue (steps + 1) depth ((Decimal.ofInt n).toList ++ rest) = .ok (.int n, rest) := by
  rw [← readNumber_ofInt n fits ends]
  rcases ofInt_cons n with ⟨c, more, text, digit⟩ | ⟨c, more, text, digit⟩
  · rw [text, List.cons_append, readValue_plain (digit_ne digit (by decide))
      (digit_ne digit (by decide)) (digit_ne digit (by decide)), readPlain_digit digit]
  · rw [text, List.cons_append, List.cons_append,
      readValue_plain (by decide) (by decide) (by decide), readPlain_minus digit]

theorem readString_string {style : Style} (reads : style.Reads) {t : Text} (free : PairFree t)
    (opened : Nat) (rest : List Char) :
    readString opened [] (t.points.flatMap style.point ++ '"' :: rest) = .ok (t, rest) := by
  rw [readString_points reads free, List.reverse_nil, List.nil_append, Text.ofPoints_points]

theorem readValue_string {style : Style} (reads : style.Reads) {t : Text} (free : PairFree t) :
    readValue (steps + 1) depth (style.string t ++ rest) = .ok (.string t, rest) := by
  rw [string_append, readValue, readString_string reads free]
  rfl

-- An array with items: the reader goes on behind the bracket, one level down.
theorem readValue_array {c : Char} {text : List Char} (begins : skip text = c :: more)
    (apart : c ≠ ']') :
    readValue (steps + 1) (depth + 1) ('[' :: text) = readItems steps depth [] (c :: more) := by
  rw [readValue]
  simp only [begins]
  split
  · next same => exact absurd (List.cons.inj same).1 apart
  · rfl

theorem readValue_object {c : Char} {text : List Char} (begins : skip text = c :: more)
    (apart : c ≠ '\x7d') :
    readValue (steps + 1) (depth + 1) ('\x7b' :: text) = readFields steps depth [] (c :: more) := by
  rw [readValue]
  simp only [begins]
  split
  · next same => exact absurd (List.cons.inj same).1 apart
  · rfl

theorem readItems_last {read : List Json} {text : List Char} {item : Json}
    (first : readValue steps depth text = .ok (item, more)) (closes : skip more = ']' :: rest) :
    readItems (steps + 1) depth read text = .ok (.array (item :: read).reverse, rest) := by
  rw [readItems, first]
  simp only [closes]

theorem readItems_more {read : List Json} {text : List Char} {item : Json}
    (first : readValue steps depth text = .ok (item, ',' :: more)) :
    readItems (steps + 1) depth read text = readItems steps depth (item :: read) (skip more) := by
  rw [readItems, first]
  simp only [skip_cons (show isSpace ',' = false by decide)]

section Fields

variable {style : Style} {read : List (Text × Json)} {name : Text} {value : Json}
  {text : List Char}

theorem readFields_last (reads : style.Reads) (free : PairFree name)
    (first : readValue steps depth text = .ok (value, more)) (ink : skip (' ' :: text) = text)
    (closes : skip more = '\x7d' :: rest) :
    readFields (steps + 1) depth read (style.string name ++ ':' :: ' ' :: text) =
      .ok (.object (setField read name value), rest) := by
  rw [string_append, readFields, readString_string reads free]
  simp only [skip_cons (show isSpace ':' = false by decide), ink, first, closes]

theorem readFields_more (reads : style.Reads) (free : PairFree name)
    (first : readValue steps depth text = .ok (value, ',' :: more))
    (ink : skip (' ' :: text) = text) :
    readFields (steps + 1) depth read (style.string name ++ ':' :: ' ' :: text) =
      readFields steps depth (setField read name value) (skip more) := by
  rw [string_append, readFields, readString_string reads free]
  simp only [skip_cons (show isSpace ':' = false by decide), ink, first,
    skip_cons (show isSpace ',' = false by decide)]

end Fields

theorem setField_of_not_mem {fields : List (Text × Json)} {name : Text} (value : Json)
    (new : name ∉ fields.map (·.1)) : setField fields name value = fields ++ [(name, value)] := by
  induction fields with
  | nil => rfl
  | cons field rest ih =>
    obtain ⟨known, old⟩ := field
    rw [List.map_cons, List.mem_cons, not_or] at new
    rw [setField, if_neg (Ne.symm new.1), ih new.2, List.cons_append]

/-! ## Values, items and fields -/

mutual

theorem readValue_render {style : Style} (reads : style.Reads) (json : Json)
    (plain : json.IsPlain) (free : json.IsPairFree) (steps depth level : Nat) (rest : List Char)
    (enough : 2 * (render style level json).length ≤ steps) (deep : json.height ≤ depth)
    (ends : Ends rest) :
    readValue (steps + 1) depth (render style level json ++ rest) = .ok (json, rest) :=
  match json with
  | .null | .bool true | .bool false => rfl
  | .int n => readValue_int n plain ends
  | .float _ => plain.elim
  | .string _ => readValue_string reads free
  | .array [] => by
    rw [height] at deep
    obtain ⟨depth, rfl⟩ : ∃ less, depth = less + 1 := ⟨depth - 1, by omega⟩
    rfl
  | .array (item :: others) => by
    rw [height] at deep
    obtain ⟨depth, rfl⟩ : ∃ less, depth = less + 1 := ⟨depth - 1, by omega⟩
    rw [render, renderItems, enclose_cons, ← renderItems] at enough ⊢
    simp only [List.length_cons, List.length_append, List.length_nil] at enough
    -- The bracket pays for the two calls that go into the first item.
    obtain ⟨steps, rfl⟩ : ∃ less, steps = less + 1 := ⟨steps - 1, by omega⟩
    obtain ⟨c, more, text, ink, apart⟩ := items_cons style (level + 1) plain.1 others
    have body := readItems_render reads (item :: others) (List.cons_ne_nil _ _) plain free steps
      depth (level + 1) [] (style.break level ++ ']' :: rest) rest (by omega) (by omega)
      (ends_break style level (by decide) rest) (skip_break style level (by decide) rest)
    simp only [List.cons_append, List.append_assoc, List.nil_append]
    rw [text, List.cons_append] at body ⊢
    rw [readValue_array (skip_break style (level + 1) ink _) apart, body]
    rfl
  | .object [] => by
    rw [height] at deep
    obtain ⟨depth, rfl⟩ : ∃ less, depth = less + 1 := ⟨depth - 1, by omega⟩
    rfl
  | .object ((name, value) :: others) => by
    rw [height] at deep
    obtain ⟨depth, rfl⟩ : ∃ less, depth = less + 1 := ⟨depth - 1, by omega⟩
    rw [render, renderFields, enclose_cons, ← renderFields] at enough ⊢
    simp only [List.length_cons, List.length_append, List.length_nil] at enough
    obtain ⟨steps, rfl⟩ : ∃ less, steps = less + 1 := ⟨steps - 1, by omega⟩
    obtain ⟨more, text⟩ := fields_cons style (level + 1) (name, value) others
    have body := readFields_render reads ((name, value) :: others) (List.cons_ne_nil _ _) plain.1
      plain.2 free steps depth (level + 1) [] (by simp) (style.break level ++ '\x7d' :: rest) rest
      (by omega) (by omega) (ends_break style level (by decide) rest)
      (skip_break style level (by decide) rest)
    simp only [List.cons_append, List.append_assoc, List.nil_append]
    rw [text, List.cons_append] at body ⊢
    rw [readValue_object (skip_break style (level + 1) (by decide) _) (by decide), body]
    rfl

theorem readItems_render {style : Style} (reads : style.Reads) (items : List Json)
    (filled : items ≠ []) (plain : ArePlain items) (free : ArePairFree items)
    (steps depth level : Nat) (read : List Json) (closing rest : List Char)
    (enough : 2 * (joined (',' :: style.break level) (renderItems style level items)).length + 1 ≤
      steps)
    (deep : heights items ≤ depth) (ends : Ends closing) (closes : skip closing = ']' :: rest) :
    readItems (steps + 1) depth read
        (joined (',' :: style.break level) (renderItems style level items) ++ closing) =
      .ok (.array (read.reverse ++ items), rest) :=
  match items with
  | [] => absurd rfl filled
  | [item] => by
    rw [renderItems, renderItems, joined_singleton] at enough ⊢
    rw [heights] at deep
    obtain ⟨steps, rfl⟩ : ∃ less, steps = less + 1 := ⟨steps - 1, by omega⟩
    -- After the value stands a bracket, a comma or a break, none of which goes on a number.
    have first := readValue_render reads item plain.1 free.1 steps depth level closing (by omega)
      (by omega) ends
    rw [readItems_last first closes, List.reverse_cons]
  | item :: next :: more => by
    rw [renderItems, renderItems, joined_cons_cons, ← renderItems] at enough ⊢
    rw [heights] at deep
    simp only [List.length_cons, List.length_append] at enough
    obtain ⟨steps, rfl⟩ : ∃ less, steps = less + 1 := ⟨steps - 1, by omega⟩
    obtain ⟨c, text, begins, ink, _⟩ := items_cons style level plain.2.1 more
    have tail := readItems_render reads (next :: more) (List.cons_ne_nil _ _) plain.2 free.2 steps
      depth level (item :: read) closing rest (by omega) (by omega) ends closes
    have first := readValue_render reads item plain.1 free.1 steps depth level
      (',' :: (style.break level ++ (joined (',' :: style.break level)
        (renderItems style level (next :: more)) ++ closing)))
      (by omega) (by omega) (ends_cons (by decide))
    simp only [List.append_assoc, List.cons_append]
    rw [readItems_more first]
    rw [begins, List.cons_append] at tail ⊢
    rw [skip_break style level ink, tail, List.reverse_cons, List.append_assoc]
    rfl

theorem readFields_render {style : Style} (reads : style.Reads) (fields : List (Text × Json))
    (filled : fields ≠ []) (plain : FieldsArePlain fields) (distinct : (fields.map (·.1)).Nodup)
    (free : FieldsArePairFree fields) (steps depth level : Nat) (read : List (Text × Json))
    (new : ∀ name ∈ fields.map (·.1), name ∉ read.map (·.1)) (closing rest : List Char)
    (enough : 2 * (joined (',' :: style.break level) (renderFields style level fields)).length + 1 ≤
      steps)
    (deep : fieldHeights fields ≤ depth) (ends : Ends closing)
    (closes : skip closing = '\x7d' :: rest) :
    readFields (steps + 1) depth read
        (joined (',' :: style.break level) (renderFields style level fields) ++ closing) =
      .ok (.object (read ++ fields), rest) :=
  match fields with
  | [] => absurd rfl filled
  | [(name, value)] => by
    rw [renderFields, renderFields, joined_singleton] at enough ⊢
    rw [fieldHeights] at deep
    simp only [List.length_cons, List.length_append] at enough
    obtain ⟨steps, rfl⟩ : ∃ less, steps = less + 1 := ⟨steps - 1, by omega⟩
    have first := readValue_render reads value plain.1 free.2.1 steps depth level closing (by omega)
      (by omega) ends
    simp only [List.append_assoc, List.cons_append]
    rw [readFields_last reads free.1 first (skip_render style level plain.1 closing) closes,
      setField_of_not_mem value (new name List.mem_cons_self)]
  | (name, value) :: (nextName, next) :: more => by
    rw [renderFields, renderFields, joined_cons_cons, ← renderFields] at enough ⊢
    rw [fieldHeights] at deep
    simp only [List.length_cons, List.length_append] at enough
    obtain ⟨steps, rfl⟩ : ∃ less, steps = less + 1 := ⟨steps - 1, by omega⟩
    obtain ⟨text, begins⟩ := fields_cons style level (nextName, next) more
    rw [List.map_cons, List.nodup_cons] at distinct
    -- The names still to come are new beside this one, too.
    have others : ∀ other ∈ ((nextName, next) :: more).map (·.1),
        other ∉ (read ++ [(name, value)]).map (·.1) := by
      intro other member
      rw [List.map_append, List.mem_append, not_or]
      refine ⟨new other (List.mem_cons_of_mem _ member), ?_⟩
      intro same
      have equal : other = name := List.mem_singleton.1 same
      exact distinct.1 (equal ▸ member)
    have tail := readFields_render reads ((nextName, next) :: more) (List.cons_ne_nil _ _) plain.2
      distinct.2 free.2.2 steps depth level (read ++ [(name, value)]) others closing rest (by omega)
      (by omega) ends closes
    have first := readValue_render reads value plain.1 free.2.1 steps depth level
      (',' :: (style.break level ++ (joined (',' :: style.break level)
        (renderFields style level ((nextName, next) :: more)) ++ closing)))
      (by omega) (by omega) (ends_cons (by decide))
    simp only [List.append_assoc, List.cons_append]
    rw [readFields_more reads free.1 first (skip_render style level plain.1 _),
      setField_of_not_mem value (new name List.mem_cons_self)]
    rw [begins, List.cons_append] at tail ⊢
    rw [skip_break style level (by decide), tail, List.append_assoc]
    rfl

end

/-- A text that is a plain value's own is read as that value, as long as the value is not nested too
deep. -/
theorem parse_render {style : Style} (reads : style.Reads) {json : Json} (plain : json.IsPlain)
    (free : json.IsPairFree) (deep : json.height ≤ nestingLimit) :
    parse (render style 0 json) = .ok json := by
  have whole := readValue_render reads json plain free (2 * (render style 0 json).length + 1)
    nestingLimit 0 [] (by omega) deep ends_nil
  rw [List.append_nil] at whole
  obtain ⟨c, more, text, ink, _, unmarked⟩ := render_cons style 0 plain
  rw [text] at whole ⊢
  rw [parse]
  · rw [skip_cons ink, whole]
    rfl
  · intro rest same
    exact unmarked (List.cons.inj same).1

end TemporalNetwork.Json
