import TemporalNetwork.Proofs.Json.Nesting
import TemporalNetwork.Proofs.Json.RoundTrip

/-!
The brackets of JSON that was written. They match in the text of every value, whatever its strings
hold, and an array or an object is open from its first character to its last. Main statement: the
text of an array or an object, cut anywhere before its end, is not JSON, as whatever the reader
accepts has closed all its brackets.
-/

namespace TemporalNetwork.Json

/-! ## Texts that were cut -/

theorem Scan.deepest_le {scan : Scan} {text : List Char} {bound : Nat}
    (low : ∀ part, part <+: text → (scan.along part).level ≤ bound) : scan.deepest text ≤ bound := by
  induction text generalizing scan with
  | nil => exact low [] List.nil_prefix
  | cons c rest ih =>
    rw [deepest, Nat.max_le]
    exact ⟨low [] List.nil_prefix, ih fun part before =>
      low (c :: part) (List.cons_prefix_cons.2 ⟨rfl, before⟩)⟩

-- A text in two parts is cut in the first part or in the second.
theorem prefix_append_cases {α : Type} {part first second : List α}
    (before : part <+: first ++ second) :
    part <+: first ∨ ∃ later, part = first ++ later ∧ later <+: second := by
  obtain ⟨rest, same⟩ := before
  rcases List.append_eq_append_iff.1 same with ⟨more, whole, _⟩ | ⟨later, whole, tail⟩
  · exact .inl ⟨more, whole.symm⟩
  · exact .inr ⟨later, whole, rest, tail.symm⟩

/-! ## Within a string -/

/-- A text that stays within a string, and under the brackets in front of it, wherever it is cut. -/
structure Inside (text : List Char) : Prop where
  stays : ∀ n, (Scan.quoted n).along text = .quoted n
  between : ∀ n part, part <+: text → ((Scan.quoted n).along part).level = n

namespace Inside

theorem nil : Inside [] where
  stays _ := rfl
  between n part before := by
    rw [List.prefix_nil.1 before]
    rfl

theorem append {first second : List Char} (one : Inside first) (two : Inside second) :
    Inside (first ++ second) where
  stays n := by rw [Scan.along_append, one.stays, two.stays]
  between n part before := by
    rcases prefix_append_cases before with early | ⟨later, rfl, late⟩
    · exact one.between n part early
    · rw [Scan.along_append, one.stays]
      exact two.between n later late

theorem flatMap {α : Type} {escape : α → List Char} (each : ∀ item, Inside (escape item))
    (items : List α) : Inside (items.flatMap escape) := by
  induction items with
  | nil => exact nil
  | cons item rest ih =>
    rw [List.flatMap_cons]
    exact (each item).append ih

theorem char {c : Char} (quote : c ≠ '"') (backslash : c ≠ '\\') : Inside [c] where
  stays n := by simp [Scan.along, Scan.step, quote, backslash]
  between n part before := by
    rcases List.prefix_cons_iff.1 before with rfl | ⟨more, rfl, nothing⟩
    · rfl
    · rw [List.prefix_nil.1 nothing]
      simp [Scan.along, Scan.step, quote, backslash, Scan.level]

theorem escaped (c : Char) : Inside ['\\', c] where
  stays _ := rfl
  between n part before := by
    rcases List.prefix_cons_iff.1 before with rfl | ⟨one, rfl, second⟩
    · rfl
    · rcases List.prefix_cons_iff.1 second with rfl | ⟨more, rfl, nothing⟩
      · rfl
      · rw [List.prefix_nil.1 nothing]
        rfl

theorem hexDigit (d : Nat) : Inside [Text.hexDigit d] := by
  have few : ∀ n < 16, Text.hexDigit n ≠ '"' ∧ Text.hexDigit n ≠ '\\' := by decide
  rw [← Text.hexDigit_mod]
  obtain ⟨quote, backslash⟩ := few (d % 16) (Nat.mod_lt d (by decide))
  exact char quote backslash

theorem unicodeEscape (unit : Nat) : Inside (unicodeEscape unit) := by
  have digits : Inside (Text.hexDigits 4 unit) := by
    rw [Text.hexDigits_four]
    exact (hexDigit _).append ((hexDigit _).append ((hexDigit _).append (hexDigit unit)))
  exact (escaped 'u').append digits

theorem escapeControl (c : Char) : Inside (escapeControl c) := by
  rw [Json.escapeControl]
  split
  · exact escaped '"'
  · next quote =>
    split
    · exact escaped '\\'
    · next slash =>
      split
      · exact escaped 'n'
      · split
        · exact escaped 'r'
        · split
          · exact escaped 't'
          · split
            · exact escaped 'b'
            · split
              · exact escaped 'f'
              · split
                · exact unicodeEscape c.toNat
                · exact char quote slash

theorem escapeNonAscii (c : Char) : Inside (escapeNonAscii c) := by
  rw [Json.escapeNonAscii]
  split
  · exact escapeControl c
  · exact flatMap unicodeEscape (utf16Units c)

theorem point {style : Style} (keeps : ∀ c, Inside (style.escape c)) (point : Point) :
    Inside (style.point point) := by
  cases point with
  | char c => exact keeps c
  | half h => exact unicodeEscape h.code

end Inside

theorem inside_file (c : Char) : Inside (Style.file.escape c) := Inside.escapeNonAscii c

/-! ## Brackets that match -/

/-- The brackets of a text match: those in front of it stay open through it, and of its own no more
than so many are open at once and none in the end. -/
structure Matched (height : Nat) (text : List Char) : Prop where
  closed : ∀ n, (Scan.outside n).along text = .outside n
  between : ∀ n part, part <+: text →
    n ≤ ((Scan.outside n).along part).level ∧ ((Scan.outside n).along part).level ≤ n + height

namespace Matched

variable {height other : Nat} {first second text : List Char}

theorem mono (matched : Matched height text) (more : height ≤ other) : Matched other text where
  closed := matched.closed
  between n part before := by
    obtain ⟨low, high⟩ := matched.between n part before
    exact ⟨low, by omega⟩

theorem append (one : Matched height first) (two : Matched height second) :
    Matched height (first ++ second) where
  closed n := by rw [Scan.along_append, one.closed, two.closed]
  between n part before := by
    rcases prefix_append_cases before with early | ⟨later, rfl, late⟩
    · exact one.between n part early
    · rw [Scan.along_append, one.closed]
      exact two.between n later late

theorem of_calm (calm : ∀ c ∈ text, Calm c) (height : Nat) : Matched height text := by
  have goes : ∀ part, part <+: text → ∀ n, (Scan.outside n).along part = .outside n := by
    intro part before n
    have own : Calms part [] := ⟨part, (List.append_nil part).symm, fun c member =>
      calm c (before.subset member)⟩
    obtain ⟨taken, same, scans⟩ := own.goes n
    rw [List.append_nil] at same
    simpa [same] using scans 0
  constructor
  · exact goes text List.prefix_rfl
  · intro n part before
    rw [goes part before n]
    exact ⟨Nat.le_refl n, Nat.le_add_right n height⟩

theorem enclosed (inner : Matched height text) {left right : Char}
    (opens : left = '[' ∨ left = '\x7b') (closes : right = ']' ∨ right = '\x7d') :
    Matched (height + 1) (left :: (text ++ [right])) ∧
      ∀ part, part <+: left :: (text ++ [right]) → part ≠ [] → part ≠ left :: (text ++ [right]) →
        1 ≤ ((Scan.outside 0).along part).level := by
  have opened : ∀ n rest, (Scan.outside n).along (left :: rest) =
      (Scan.outside (n + 1)).along rest := by
    intro n rest
    rcases opens with rfl | rfl <;> rfl
  have shut : ∀ n, (Scan.outside (n + 1)).along [right] = .outside n := by
    intro n
    rcases closes with rfl | rfl <;> rfl
  have closed : ∀ n, (Scan.outside n).along (left :: (text ++ [right])) = .outside n := by
    intro n
    rw [opened, Scan.along_append, inner.closed, shut]
  -- The left bracket stands, or all of it, or a part of the text behind the bracket.
  have parts : ∀ n part, part <+: left :: (text ++ [right]) →
      part = [] ∨ part = left :: (text ++ [right]) ∨
        n + 1 ≤ ((Scan.outside n).along part).level ∧
          ((Scan.outside n).along part).level ≤ n + 1 + height := by
    intro n part before
    rcases List.prefix_cons_iff.1 before with rfl | ⟨cut, rfl, inside⟩
    · exact .inl rfl
    · rcases List.prefix_concat_iff.1 inside with rfl | early
      · exact .inr (.inl rfl)
      · rw [opened]
        exact .inr (.inr (inner.between (n + 1) cut early))
  refine ⟨⟨closed, ?_⟩, ?_⟩
  · intro n part before
    rcases parts n part before with rfl | rfl | ⟨low, high⟩
    · exact ⟨Nat.le_refl n, Nat.le_add_right n _⟩
    · rw [closed]
      exact ⟨Nat.le_refl n, Nat.le_add_right n _⟩
    · omega
  · intro part before some proper
    rcases parts 0 part before with nothing | whole | ⟨low, _⟩
    · exact absurd nothing some
    · exact absurd whole proper
    · exact low

end Matched

/-! ## Values -/

section Render

variable {style : Style}

theorem calm_of_all {text : List Char} (checked : text.all (Calm ·) = true) :
    ∀ c ∈ text, Calm c := by
  simpa using checked

theorem calm_break (level : Nat) : ∀ c ∈ style.break level, Calm c := by
  intro c member
  rw [Style.break] at member
  cases given : style.indent with
  | none =>
    rw [given] at member
    cases member
  | some step =>
    rw [given] at member
    rcases List.mem_cons.1 member with rfl | space
    · decide
    · rw [List.eq_of_mem_replicate space]
      decide

theorem calm_ofInt (n : Int) : ∀ c ∈ (Decimal.ofInt n).toList, Calm c := by
  have digits : ∀ m, ∀ c ∈ Decimal.digits m, Calm c := fun m c member =>
    calm_of_isDigit (Decimal.isDigit_of_mem_digits m c member)
  cases n with
  | ofNat m => simpa [Decimal.ofInt, Decimal.ofNat] using digits m
  | negSucc m =>
    have text : (Decimal.ofInt (.negSucc m)).toList = '-' :: Decimal.digits (m + 1) := by
      simp [Decimal.ofInt, Decimal.ofNat]
    rw [text, List.forall_mem_cons]
    exact ⟨by decide, digits (m + 1)⟩

theorem matched_string (keeps : ∀ c, Inside (style.escape c)) (t : Text) :
    Matched 0 (style.string t) := by
  have inner := Inside.flatMap (Inside.point keeps) t.points
  have text : style.string t = '"' :: (t.points.flatMap style.point ++ ['"']) := rfl
  have opened : ∀ n rest, (Scan.outside n).along ('"' :: rest) = (Scan.quoted n).along rest :=
    fun _ _ => rfl
  rw [text]
  constructor
  · intro n
    rw [opened, Scan.along_append, inner.stays]
    rfl
  · intro n part before
    rcases List.prefix_cons_iff.1 before with rfl | ⟨cut, rfl, inside⟩
    · exact ⟨Nat.le_refl n, Nat.le_refl n⟩
    · rw [opened]
      rcases List.prefix_concat_iff.1 inside with rfl | early
      · rw [Scan.along_append, inner.stays]
        exact ⟨Nat.le_refl n, Nat.le_refl n⟩
      · rw [inner.between n cut early]
        exact ⟨Nat.le_refl n, Nat.le_refl n⟩

theorem matched_joined {height : Nat} {separator : List Char} (calm : ∀ c ∈ separator, Calm c)
    {texts : List (List Char)} (each : ∀ text ∈ texts, Matched height text) :
    Matched height (joined separator texts) := by
  induction texts with
  | nil => exact .of_calm (fun _ member => absurd member List.not_mem_nil) height
  | cons first rest ih =>
    obtain ⟨own, others⟩ := List.forall_mem_cons.1 each
    cases rest with
    | nil =>
      rw [joined_singleton]
      exact own
    | cons next more =>
      rw [joined_cons_cons]
      exact own.append ((Matched.of_calm calm height).append (ih others))

def Style.interior (style : Style) (level : Nat) (texts : List (List Char)) : List Char :=
  if texts.isEmpty then []
  else style.break (level + 1) ++ (joined (',' :: style.break (level + 1)) texts ++ style.break level)

theorem enclose_eq (level : Nat) (left right : Char) (texts : List (List Char)) :
    style.enclose level left right texts = left :: (style.interior level texts ++ [right]) := by
  cases texts with
  | nil => rfl
  | cons text rest =>
    rw [enclose_cons]
    simp [Style.interior]

theorem matched_interior {height : Nat} (level : Nat) {texts : List (List Char)}
    (each : ∀ text ∈ texts, Matched height text) : Matched height (style.interior level texts) := by
  have separator : ∀ c ∈ ',' :: style.break (level + 1), Calm c :=
    List.forall_mem_cons.2 ⟨by decide, calm_break (level + 1)⟩
  rw [Style.interior]
  split
  · exact .of_calm (fun _ member => absurd member List.not_mem_nil) height
  · exact (Matched.of_calm (calm_break _) height).append
      ((matched_joined separator each).append (.of_calm (calm_break _) height))

mutual

/-- The brackets of a value match, and no more are open at once than the value is high. -/
theorem matched_render (keeps : ∀ c, Inside (style.escape c)) (json : Json) (plain : json.IsPlain)
    (level : Nat) : Matched json.height (render style level json) :=
  match json with
  | .null => .of_calm (calm_of_all rfl) 0
  | .bool true => .of_calm (calm_of_all rfl) 0
  | .bool false => .of_calm (calm_of_all rfl) 0
  | .int n => .of_calm (calm_ofInt n) 0
  | .float _ => plain.elim
  | .string t => matched_string keeps t
  | .array items => by
    rw [render, enclose_eq, height]
    exact ((matched_interior level (matched_renderItems keeps items plain (level + 1))).enclosed
      (.inl rfl) (.inl rfl)).1
  | .object fields => by
    rw [render, enclose_eq, height]
    exact ((matched_interior level (matched_renderFields keeps fields plain.1 (level + 1))).enclosed
      (.inr rfl) (.inr rfl)).1

theorem matched_renderItems (keeps : ∀ c, Inside (style.escape c)) (items : List Json)
    (plain : ArePlain items) (level : Nat) :
    ∀ text ∈ renderItems style level items, Matched (heights items) text :=
  match items with
  | [] => fun _ member => absurd member List.not_mem_nil
  | item :: rest => by
    rw [renderItems, heights, List.forall_mem_cons]
    refine ⟨(matched_render keeps item plain.1 level).mono (Nat.le_max_left ..), ?_⟩
    intro text member
    exact (matched_renderItems keeps rest plain.2 level text member).mono (Nat.le_max_right ..)

theorem matched_renderFields (keeps : ∀ c, Inside (style.escape c)) (fields : List (Text × Json))
    (plain : FieldsArePlain fields) (level : Nat) :
    ∀ text ∈ renderFields style level fields, Matched (fieldHeights fields) text :=
  match fields with
  | [] => fun _ member => absurd member List.not_mem_nil
  | (name, value) :: rest => by
    rw [renderFields, fieldHeights, List.forall_mem_cons]
    constructor
    · have own := (matched_render keeps value plain.1 level).mono
        (Nat.le_max_left value.height (fieldHeights rest))
      have colon : Matched (max value.height (fieldHeights rest)) [':', ' '] :=
        .of_calm (calm_of_all rfl) _
      exact ((matched_string keeps name).mono (Nat.zero_le _)).append (colon.append own)
    · intro text member
      exact (matched_renderFields keeps rest plain.2 level text member).mono (Nat.le_max_right ..)

end

theorem open_of_cut (keeps : ∀ c, Inside (style.escape c)) {json : Json} (plain : json.IsPlain)
    (container : 0 < json.height) {part : List Char} (before : part <+: render style 0 json)
    (some : part ≠ []) (proper : part ≠ render style 0 json) :
    1 ≤ ((Scan.outside 0).along part).level := by
  cases json with
  | array items =>
    rw [render, enclose_eq] at before proper
    exact ((matched_interior 0 (matched_renderItems keeps items plain 1)).enclosed
      (.inl rfl) (.inl rfl)).2 part before some proper
  | object fields =>
    rw [render, enclose_eq] at before proper
    exact ((matched_interior 0 (matched_renderFields keeps fields plain.1 1)).enclosed
      (.inr rfl) (.inr rfl)).2 part before some proper
  | _ => exact absurd container (Nat.lt_irrefl 0)

end Render

/-! ## Reading what was cut -/

-- Whatever the reader accepts has closed all its brackets.
theorem closed_of_parse {text : List Char} {json : Json} (parsed : parse text = .ok json) :
    (Scan.outside 0).along text = .outside 0 := by
  rw [parse.eq_def] at parsed
  split at parsed
  · cases parsed
  · have value := scanned_readValue (2 * text.length + 2) nestingLimit (skip text)
    split at parsed
    · cases parsed
    · next read rest found =>
      rw [found] at value
      split at parsed
      · next ended =>
        have last := (calms_skip rest).goes 0
        rw [ended] at last
        obtain ⟨taken, same, scans⟩ := ((calms_skip text).goes 0).trans (Goes.trans value last)
        rw [same, List.append_nil]
        exact scans 0
      · cases parsed

/-- The text of an array or an object that is not nested too deep is no JSON when it is cut, and the
reader does not give up on its nesting. -/
theorem parse_of_cut {style : Style} (keeps : ∀ c, Inside (style.escape c)) {json : Json}
    (plain : json.IsPlain) (container : 0 < json.height) (deep : json.height ≤ nestingLimit)
    {part : List Char} (before : part <+: render style 0 json)
    (proper : part ≠ render style 0 json) :
    ∃ error, parse part = .error error ∧ ∀ container, error ≠ .tooDeep container := by
  cases parsed : parse part with
  | ok value =>
    have shut := closed_of_parse parsed
    have some : part ≠ [] := by
      rintro rfl
      cases parsed
    have left := open_of_cut keeps plain container before some proper
    rw [shut] at left
    exact absurd left (by decide)
  | error error =>
    refine ⟨error, rfl, ?_⟩
    rintro container rfl
    have high : nesting part ≤ json.height := Scan.deepest_le fun cut early => by
      have bound := ((matched_render keeps json plain 0).between 0 cut (early.trans before)).2
      rwa [Nat.zero_add] at bound
    have limit := nestingLimit_lt_of_tooDeep parsed
    omega

end TemporalNetwork.Json
