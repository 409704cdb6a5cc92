import TemporalNetwork.Json.Parser

/-!
How deep brackets are nested in a text, whether or not it is JSON: a scan counts the brackets that
are open outside of strings. Main statement: the reader gives up on the nesting only where the scan
of the text comes to more than `nestingLimit` open brackets.
-/

namespace TemporalNetwork.Json

/-- Where a scan is, with the number of brackets that are open there: outside of strings, in a
string, or in a string behind a backslash. -/
inductive Scan where
  | outside (level : Nat)
  | quoted (level : Nat)
  | escaped (level : Nat)
  deriving DecidableEq, Repr

namespace Scan

def level : Scan → Nat
  | .outside level | .quoted level | .escaped level => level

def step : Scan → Char → Scan
  | .outside level, c =>
    if c = '"' then .quoted level
    else if c = '[' ∨ c = '\x7b' then .outside (level + 1)
    else if c = ']' ∨ c = '\x7d' then .outside (level - 1)
    else .outside level
  | .quoted level, c =>
    if c = '"' then .outside level else if c = '\\' then .escaped level else .quoted level
  | .escaped level, _ => .quoted level

def along (scan : Scan) (text : List Char) : Scan := text.foldl step scan

def deepest (scan : Scan) : List Char → Nat
  | [] => scan.level
  | c :: rest => max scan.level (deepest (scan.step c) rest)

theorem along_append (scan : Scan) (first second : List Char) :
    scan.along (first ++ second) = (scan.along first).along second := List.foldl_append

theorem level_le_deepest (scan : Scan) (before after : List Char) :
    (scan.along before).level ≤ scan.deepest (before ++ after) := by
  induction before generalizing scan with
  | nil =>
    cases after with
    | nil => exact Nat.le_refl _
    | cons c rest => exact Nat.le_max_left ..
  | cons c rest ih => exact Nat.le_trans (ih (scan.step c)) (Nat.le_max_right ..)

end Scan

/-- How many brackets are open at once in a text, strings apart. -/
def nesting (text : List Char) : Nat := (Scan.outside 0).deepest text

/-! ## From one place in a text to another -/

/-- A text goes on to its rest, and the scan from so many open brackets to so many, on top of any
others. -/
def Goes (opened left : Nat) (text rest : List Char) : Prop :=
  ∃ taken, text = taken ++ rest ∧
    ∀ k, (Scan.outside (k + opened)).along taken = .outside (k + left)

namespace Goes

variable {m n l : Nat} {text middle rest : List Char}

theorem refl (n : Nat) (text : List Char) : Goes n n text text := ⟨[], rfl, fun _ => rfl⟩

theorem trans (first : Goes m n text middle) (second : Goes n l middle rest) :
    Goes m l text rest := by
  obtain ⟨before, rfl, begins⟩ := first
  obtain ⟨after, rfl, ends⟩ := second
  refine ⟨before ++ after, (List.append_assoc ..).symm, ?_⟩
  intro k
  rw [Scan.along_append, begins, ends]

-- Under more open brackets a scan goes the same way.
theorem lift (goes : Goes m n text rest) (more : Nat) : Goes (m + more) (n + more) text rest := by
  obtain ⟨taken, same, scans⟩ := goes
  refine ⟨taken, same, ?_⟩
  intro k
  have deeper := scans (k + more)
  rwa [Nat.add_right_comm, Nat.add_right_comm k more n, Nat.add_assoc, Nat.add_assoc] at deeper

theorem opening {c : Char} (bracket : c = '[' ∨ c = '\x7b') (rest : List Char) :
    Goes 0 1 (c :: rest) rest := by
  refine ⟨[c], rfl, fun k => ?_⟩
  rcases bracket with rfl | rfl <;> rfl

theorem closing {c : Char} (bracket : c = ']' ∨ c = '\x7d') (rest : List Char) :
    Goes 1 0 (c :: rest) rest := by
  refine ⟨[c], rfl, fun k => ?_⟩
  rcases bracket with rfl | rfl <;> rfl

end Goes

/-! ## What is read without a bracket -/

def Calm (c : Char) : Prop :=
  c ≠ '"' ∧ c ≠ '[' ∧ c ≠ '\x7b' ∧ c ≠ ']' ∧ c ≠ '\x7d'

instance (c : Char) : Decidable (Calm c) := inferInstanceAs (Decidable (_ ∧ _))

def Calms (text rest : List Char) : Prop := ∃ taken, text = taken ++ rest ∧ ∀ c ∈ taken, Calm c

namespace Calms

variable {text middle rest : List Char}

theorem refl (text : List Char) : Calms text text := ⟨[], rfl, fun _ member => by cases member⟩

theorem cons {c : Char} (calm : Calm c) (calms : Calms text rest) : Calms (c :: text) rest := by
  obtain ⟨taken, rfl, all⟩ := calms
  exact ⟨c :: taken, rfl, List.forall_mem_cons.2 ⟨calm, all⟩⟩

theorem trans (first : Calms text middle) (second : Calms middle rest) : Calms text rest := by
  obtain ⟨before, rfl, calm⟩ := first
  obtain ⟨after, rfl, also⟩ := second
  refine ⟨before ++ after, (List.append_assoc ..).symm, ?_⟩
  intro c member
  rcases List.mem_append.1 member with early | late
  · exact calm c early
  · exact also c late

theorem dropWhile {p : Char → Bool} (calm : ∀ c, p c = true → Calm c) (text : List Char) :
    Calms text (text.dropWhile p) := by
  refine ⟨text.takeWhile p, List.takeWhile_append_dropWhile.symm, ?_⟩
  intro c member
  exact calm c (List.all_eq_true.1 List.all_takeWhile c member)

theorem goes (calms : Calms text rest) (n : Nat) : Goes n n text rest := by
  obtain ⟨taken, rfl, all⟩ := calms
  refine ⟨taken, rfl, fun k => ?_⟩
  induction taken with
  | nil => rfl
  | cons c taken ih =>
    obtain ⟨quote, left, leftBrace, right, rightBrace⟩ := all c List.mem_cons_self
    have stays : (Scan.outside (k + n)).step c = .outside (k + n) := by
      simp [Scan.step, quote, left, leftBrace, right, rightBrace]
    rw [Scan.along, List.foldl_cons, stays]
    exact ih fun other member => all other (List.mem_cons_of_mem c member)

end Calms

theorem calm_of_isDigit {c : Char} (digit : c.isDigit = true) : Calm c := by
  refine ⟨?_, ?_, ?_, ?_, ?_⟩ <;>
  · rintro rfl
    cases digit

theorem calm_of_isSpace {c : Char} (space : isSpace c = true) : Calm c := by
  refine ⟨?_, ?_, ?_, ?_, ?_⟩ <;>
  · rintro rfl
    cases space

theorem calms_skip (text : List Char) : Calms text (skip text) :=
  Calms.dropWhile (fun _ => calm_of_isSpace) text

theorem calms_spanDigits (text : List Char) : Calms text (Double.spanDigits text).2 :=
  Calms.dropWhile (fun _ => calm_of_isDigit) text

theorem calms_spanSign (text : List Char) : Calms text (Double.spanSign text).2 := by
  rw [Double.spanSign.eq_def]
  split
  · exact .cons (by decide) (.refl _)
  · exact .cons (by decide) (.refl _)
  · exact .refl _

theorem calms_wholeDigits (text : List Char) : Calms text (wholeDigits text).2 := by
  rw [wholeDigits.eq_def]
  split
  · exact .cons (by decide) (.refl _)
  · exact calms_spanDigits _

theorem calms_fraction (text : List Char) : Calms text (fraction text).2 := by
  rw [fraction.eq_def]
  split
  · split
    · exact .cons (by decide) (calms_spanDigits _)
    · exact .refl _
  · exact .refl _

theorem calms_exponent {text rest digits : List Char} {negative : Bool}
    (found : exponent? text = some (negative, digits, rest)) : Calms text rest := by
  rw [exponent?.eq_def] at found
  split at found
  · next mark body =>
    split at found
    · next letter =>
      have calm : Calm mark := by
        simp only [Bool.or_eq_true, decide_eq_true_eq] at letter
        rcases letter with rfl | rfl <;> decide
      simp only at found
      split at found
      · cases found
      · cases found
        exact .cons calm ((calms_spanSign body).trans (calms_spanDigits _))
    · cases found
  · cases found

theorem calms_readNumber {text rest : List Char} {json : Json}
    (found : readNumber text = .ok (json, rest)) : Calms text rest := by
  rw [readNumber.eq_def] at found
  split at found
  next negative body sign =>
    have calms : Calms text body := by
      split at sign
      · cases sign
        exact .cons (by decide) (.refl _)
      · cases sign
        exact .refl _
    -- Digits, decimals and exponent, each over calm characters.
    have digits := calms.trans (calms_wholeDigits body)
    have decimals := digits.trans (calms_fraction (wholeDigits body).2)
    simp only at found
    split at found
    · cases found
    · split at found
      · next exponent =>
        cases found
        exact decimals.trans (calms_exponent exponent)
      · split at found
        · split at found
          · cases found
          · cases found
            exact decimals
        · cases found
          exact decimals

theorem calms_readPlain {text rest : List Char} {json : Json}
    (found : readPlain text = .ok (json, rest)) : Calms text rest := by
  rw [readPlain] at found
  split at found
  · next word value constant =>
    cases found
    have begins := List.find?_some constant
    have listed := List.mem_of_find?_eq_some constant
    have calm : ∀ constant ∈ constants, ∀ c ∈ constant.1, Calm c := by simp [constants, Calm]
    obtain ⟨taken, rfl⟩ := List.isPrefixOf_iff_prefix.1 begins
    rw [List.drop_left]
    exact ⟨word, rfl, calm _ listed⟩
  · exact calms_readNumber found

/-! ## Strings -/

def Quotes (text rest : List Char) : Prop :=
  ∃ taken, text = taken ++ rest ∧ ∀ k, (Scan.quoted k).along taken = .quoted k

theorem Quotes.trans {text middle rest : List Char} (first : Quotes text middle)
    (second : Quotes middle rest) : Quotes text rest := by
  obtain ⟨before, rfl, begins⟩ := first
  obtain ⟨after, rfl, ends⟩ := second
  refine ⟨before ++ after, (List.append_assoc ..).symm, ?_⟩
  intro k
  rw [Scan.along_append, begins, ends]

theorem quotes_escaped (c : Char) (rest : List Char) : Quotes ('\\' :: c :: rest) rest :=
  ⟨['\\', c], rfl, fun _ => rfl⟩

theorem quotes_cons {c : Char} (quote : c ≠ '"') (backslash : c ≠ '\\') (rest : List Char) :
    Quotes (c :: rest) rest := by
  refine ⟨[c], rfl, fun k => ?_⟩
  simp [Scan.along, Scan.step, quote, backslash]

theorem quotes_hex {c : Char} {n : Nat} (hex : Text.hexDigit? c = some n) (rest : List Char) :
    Quotes (c :: rest) rest := by
  apply quotes_cons
  · rintro rfl
    cases hex
  · rintro rfl
    cases hex

theorem quotes_quad {text : List Char} {n : Nat} (found : quad? text = some n) :
    Quotes text (text.drop 4) := by
  match text with
  | a :: b :: c :: d :: rest =>
    simp only [quad?, Option.bind_eq_bind, Option.bind_eq_some_iff] at found
    obtain ⟨_, first, _, second, _, third, _, fourth, _⟩ := found
    exact (quotes_hex first _).trans ((quotes_hex second _).trans
      ((quotes_hex third _).trans (quotes_hex fourth rest)))

theorem quotes_readUnicode {text : List Char} {point : Point} {taken : Nat}
    (found : readUnicode text = .ok (point, taken)) : Quotes text (text.drop taken) := by
  rw [readUnicode] at found
  split at found
  · cases found
  · split at found
    · cases found
    · next unit first =>
      have digits := quotes_quad first
      simp only at found
      split at found
      · next pair =>
        simp only [Bool.and_eq_true, decide_eq_true_eq] at pair
        split at found
        · cases found
        · next low second =>
          split at found
          · simp only [Except.ok.injEq, Prod.mk.injEq] at found
            obtain ⟨_, rfl⟩ := found
            have behind := quotes_quad second
            have escape := quotes_escaped 'u' ((text.drop 4).drop 2)
            have more := List.take_append_drop 2 (text.drop 4)
            rw [pair.2] at more
            rw [← more] at digits
            simpa only [List.drop_drop] using digits.trans (escape.trans behind)
          · cases found
            exact digits
      · cases found
        exact digits

theorem quotes_readString {opened : Nat} {read : List Point} {text rest : List Char} {t : Text}
    (found : readString opened read text = .ok (t, rest)) : Quotes text ('"' :: rest) := by
  fun_induction readString opened read text with
  | case1 => cases found
  | case2 =>
    cases found
    exact ⟨[], rfl, fun _ => rfl⟩
  | case3 => cases found
  | case4 => cases found
  | case5 read text point taken unicode ih =>
    exact (quotes_escaped 'u' text).trans ((quotes_readUnicode unicode).trans (ih found))
  | case6 read c text _ _ meant ih => exact (quotes_escaped c text).trans (ih found)
  | case7 => cases found
  | case8 => cases found
  | case9 read c text quote alone _ escape _ ih =>
    have backslash : c ≠ '\\' := by
      intro same
      cases text with
      | nil => exact alone same rfl
      | cons next more => exact escape next more same rfl
    exact (quotes_cons quote backslash text).trans (ih found)

theorem goes_string {opened : Nat} {read : List Point} {text rest : List Char} {t : Text}
    (found : readString opened read text = .ok (t, rest)) (n : Nat) :
    Goes n n ('"' :: text) rest := by
  obtain ⟨taken, rfl, scans⟩ := quotes_readString found
  refine ⟨'"' :: (taken ++ ['"']), by simp, fun k => ?_⟩
  have opens : (Scan.outside (k + n)).step '"' = .quoted (k + n) := rfl
  rw [Scan.along, List.foldl_cons, opens]
  exact (Scan.along_append ..).trans (congrArg (Scan.along · ['"']) (scans (k + n)))

/-! ## Values -/

/-- What is left behind a piece of JSON, or where the reader gave up: with so many brackets more
open than it goes down. -/
def Scanned (opened depth : Nat) (text : List Char) : Except Error (Json × List Char) → Prop
  | .ok (_, rest) => Goes opened 0 text rest
  | .error (.tooDeep _) => ∃ rest, Goes opened (opened + depth + 1) text rest
  | .error _ => True

namespace Scanned

variable {opened left depth low : Nat} {text middle : List Char}
  {result : Except Error (Json × List Char)}

theorem of_not_deep {error : Error} (other : ∀ container, error ≠ .tooDeep container) :
    Scanned opened depth text (.error error) := by
  cases error with
  | malformed fault left => trivial
  | tooManyDigits count => trivial
  | tooDeep container => exact absurd rfl (other container)

theorem fail (fault : Fault) (rest : List Char) :
    Scanned opened depth text (Json.fail fault rest) := trivial

theorem after (goes : Goes opened left text middle) (scanned : Scanned left depth middle result)
    (same : left + depth = opened + low) : Scanned opened low text result := by
  match result with
  | .ok (json, rest) => exact goes.trans scanned
  | .error (.malformed _ _) => trivial
  | .error (.tooManyDigits _) => trivial
  | .error (.tooDeep _) =>
    obtain ⟨rest, further⟩ := scanned
    rw [same] at further
    exact ⟨rest, goes.trans further⟩

-- Where a value gives up, so does what it is part of.
theorem lift {error : Error} (scanned : Scanned 0 depth text (.error error)) :
    Scanned 1 depth text (.error error) := by
  cases error with
  | malformed fault left => trivial
  | tooManyDigits count => trivial
  | tooDeep container =>
    obtain ⟨rest, goes⟩ := scanned
    have higher := goes.lift 1
    rw [Nat.zero_add, Nat.zero_add, Nat.add_right_comm] at higher
    exact ⟨rest, by rwa [Nat.add_comm 1 depth]⟩

end Scanned

/-! ### Leaves -/

theorem readUnicode_error {text : List Char} {error : Error}
    (failed : readUnicode text = .error error) (container : String) :
    error ≠ .tooDeep container := by
  rintro rfl
  rw [readUnicode] at failed
  split at failed
  · cases failed
  · split at failed
    · cases failed
    · simp only at failed
      split at failed
      · split at failed
        · cases failed
        · split at failed <;> cases failed
      · cases failed

theorem readString_error {opened : Nat} {read : List Point} {text : List Char} {error : Error}
    (failed : readString opened read text = .error error) (container : String) :
    error ≠ .tooDeep container := by
  fun_induction readString opened read text with
  | case1 => cases failed; simp
  | case2 => cases failed
  | case3 => cases failed; simp
  | case4 _ _ _ unicode =>
    cases failed
    exact readUnicode_error unicode container
  | case5 _ _ _ _ _ ih => exact ih failed
  | case6 _ _ _ _ _ _ ih => exact ih failed
  | case7 => cases failed; simp
  | case8 => cases failed; simp
  | case9 _ _ _ _ _ _ _ _ ih => exact ih failed

theorem scanned_readString {text : List Char} (opened depth : Nat) (read : List Point) :
    Scanned 0 depth ('"' :: text)
      ((readString opened read text).map fun (t, rest) => (.string t, rest)) := by
  cases found : readString opened read text with
  | error error => exact .of_not_deep (readString_error found)
  | ok pair => exact goes_string found 0

theorem scanned_readPlain (depth : Nat) (text : List Char) :
    Scanned 0 depth text (readPlain text) := by
  cases found : readPlain text with
  | ok pair => exact (calms_readPlain found).goes 0
  | error error =>
    refine .of_not_deep fun container => ?_
    rintro rfl
    rw [readPlain] at found
    split at found
    · cases found
    · rw [readNumber.eq_def] at found
      split at found
      simp only at found
      split at found
      · cases found
      · split at found
        · cases found
        · split at found
          · split at found <;> cases found
          · cases found

/-! ### Arrays and objects -/

mutual

theorem scanned_readValue (steps depth : Nat) (text : List Char) :
    Scanned 0 depth text (readValue steps depth text) := by
  match steps with
  | 0 => exact .fail ..
  | steps + 1 =>
    rw [readValue.eq_def]
    simp only
    split
    · exact scanned_readString ..
    · next rest =>
      have opening := Goes.opening (.inl rfl) rest
      have inside := opening.trans ((calms_skip rest).goes 1)
      split
      · exact ⟨_, opening⟩
      · next depth =>
        split
        · next closed => exact (closed ▸ inside).trans (.closing (.inl rfl) _)
        · exact .after inside (scanned_readItems steps depth [] (skip rest)) (by omega)
    · next rest =>
      have opening := Goes.opening (.inr rfl) rest
      have inside := opening.trans ((calms_skip rest).goes 1)
      split
      · exact ⟨_, opening⟩
      · next depth =>
        split
        · next closed => exact (closed ▸ inside).trans (.closing (.inr rfl) _)
        · exact .after inside (scanned_readFields steps depth [] (skip rest)) (by omega)
    · exact scanned_readPlain depth _
termination_by steps

theorem scanned_readItems (steps depth : Nat) (read : List Json) (text : List Char) :
    Scanned 1 depth text (readItems steps depth read text) := by
  match steps with
  | 0 => exact .fail ..
  | steps + 1 =>
    have first := scanned_readValue steps depth text
    rw [readItems.eq_def]
    simp only
    split
    · next failed => exact .lift (failed ▸ first)
    · next rest found =>
      rw [found] at first
      have behind := (Goes.lift first 1).trans ((calms_skip rest).goes 1)
      split
      · next closed => exact (closed ▸ behind).trans (.closing (.inl rfl) _)
      · next more comma =>
        have next := (comma ▸ behind).trans ((Calms.cons (by decide) (calms_skip more)).goes 1)
        exact .after next (scanned_readItems steps depth _ (skip more)) rfl
      · exact .fail ..
termination_by steps

theorem scanned_readFields (steps depth : Nat) (read : List (Text × Json)) (text : List Char) :
    Scanned 1 depth text (readFields steps depth read text) := by
  match steps with
  | 0 => exact .fail ..
  | steps + 1 =>
    rw [readFields.eq_def]
    simp only
    split
    · next rest =>
      split
      · next failed => exact .of_not_deep (readString_error failed)
      · next behindName found =>
        have name := (goes_string found 1).trans ((calms_skip behindName).goes 1)
        split
        · next more colon =>
          have field := (colon ▸ name).trans
            ((Calms.cons (by decide) (calms_skip more)).goes 1)
          have value := scanned_readValue steps depth (skip more)
          split
          · next failed => exact .after field (.lift (failed ▸ value)) rfl
          · next behindValue read =>
            rw [read] at value
            have behind := field.trans
              ((Goes.lift value 1).trans ((calms_skip behindValue).goes 1))
            split
            · next closed => exact (closed ▸ behind).trans (.closing (.inr rfl) _)
            · next more comma =>
              have next := (comma ▸ behind).trans
                ((Calms.cons (by decide) (calms_skip more)).goes 1)
              exact .after next (scanned_readFields steps depth _ (skip more)) rfl
            · exact .fail ..
        · exact .fail ..
    · exact .fail ..
termination_by steps

end

/-- The reader gives up on the nesting only of a text that is nested deeper than the limit. -/
theorem nestingLimit_lt_of_tooDeep {text : List Char} {container : String}
    (failed : parse text = .error (.tooDeep container)) : nestingLimit < nesting text := by
  rw [parse.eq_def] at failed
  split at failed
  · cases failed
  · split at failed
    · next scanned =>
      have value := scanned_readValue (2 * text.length + 2) nestingLimit (skip text)
      rw [scanned, Except.error.inj failed] at value
      obtain ⟨rest, deep⟩ := value
      obtain ⟨taken, same, scans⟩ := ((calms_skip text).goes 0).trans deep
      have reached := Scan.level_le_deepest (.outside 0) taken rest
      rw [scans 0, ← same] at reached
      exact Nat.lt_of_lt_of_le (by simp [Scan.level]) reached
    · split at failed <;> cases failed

end TemporalNetwork.Json
