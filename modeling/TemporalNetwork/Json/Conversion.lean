import TemporalNetwork.Json.Printer
import TemporalNetwork.Value.Text

/-!
Values as JSON and back. Tuples become arrays and keys become names; bytes have no form in JSON and
whole numbers are limited in length, so a value that holds either can be written only up to there.
Main statement: what is read from JSON and written again is the same JSON.
-/

namespace TemporalNetwork.Json

mutual

def toValue : Json → Value
  | .null => .none
  | .bool truth => .bool truth
  | .int n => .int n
  | .float x => .float x
  | .string t => .text t
  | .array items => .list (toValues items)
  | .object fields => .dict (toEntries fields)

def toValues : List Json → List Value
  | [] => []
  | item :: rest => toValue item :: toValues rest

def toEntries : List (Text × Json) → List (Value × Value)
  | [] => []
  | (name, value) :: rest => (.text name, toValue value) :: toEntries rest

end

/-- JSON that ends in the middle: at a value that it cannot hold, with what stands before it. -/
inductive Broken where
  | here
  | array (before : List Json) (last : Broken)
  | object (before : List (Text × Json)) (name : Text) (last : Broken)
  deriving Repr

inductive Unwritable where
  | value (kind : Value.Kind)
  | key (kind : Value.Kind)
  | digits
  deriving DecidableEq, Repr

def Unwritable.message : Unwritable → String
  | .value kind => "Object of type " ++ kind.name ++ " is not JSON serializable"
  | .key kind => "keys must be str, int, float, bool or None, not " ++ kind.name
  | .digits => Decimal.tooLongMessage

def nameOfKey? : Value → Option Text
  | .text t => some t
  | .none => some "null"
  | .bool truth => some (if truth then "true" else "false")
  | .int n => some (Decimal.ofInt n)
  | .float x => some (floatLayout.render x)
  | _ => none

mutual

def ofValue : Value → Except (Unwritable × Broken) Json
  | .none => .ok .null
  | .bool truth => .ok (.bool truth)
  | .int n => if Decimal.fits n then .ok (.int n) else .error (.digits, .here)
  | .float x => .ok (.float x)
  | .text t => .ok (.string t)
  | .list items => ofItems [] items
  | .tuple items => ofItems [] items
  | .dict entries => ofEntries [] entries
  | .bytes _ => .error (.value .bytes, .here)
  | .buffer _ => .error (.value .buffer, .here)
  | .object traits _ => .error (.value (.object traits.className), .here)

def ofItems (done : List Json) : List Value → Except (Unwritable × Broken) Json
  | [] => .ok (.array done.reverse)
  | item :: rest =>
    match ofValue item with
    | .ok json => ofItems (json :: done) rest
    | .error (cause, broken) => .error (cause, .array done.reverse broken)

def ofEntries (done : List (Text × Json)) :
    List (Value × Value) → Except (Unwritable × Broken) Json
  | [] => .ok (.object done.reverse)
  | (key, item) :: rest =>
    match nameOfKey? key with
    | none => .error (.key key.kind, .here)
    | some name =>
      match ofValue item with
      | .ok json => ofEntries ((name, json) :: done) rest
      | .error (cause, broken) => .error (cause, .object done.reverse name broken)

end

mutual

def isWritable : Json → Bool
  | .int n => Decimal.fits n
  | .array items => areWritable items
  | .object fields => fieldsAreWritable fields
  | _ => true

def areWritable : List Json → Bool
  | [] => true
  | item :: rest => isWritable item && areWritable rest

def fieldsAreWritable : List (Text × Json) → Bool
  | [] => true
  | (_, value) :: rest => isWritable value && fieldsAreWritable rest

end

mutual

theorem ofValue_toValue (json : Json) (writable : json.isWritable = true) :
    ofValue json.toValue = .ok json :=
  match json with
  | .null | .bool _ | .float _ | .string _ => rfl
  | .int n => by
    rw [isWritable] at writable
    simp [toValue, ofValue, writable]
  | .array items => by
    rw [isWritable] at writable
    simpa [toValue, ofValue] using ofItems_toValues [] items writable
  | .object fields => by
    rw [isWritable] at writable
    simpa [toValue, ofValue] using ofEntries_toEntries [] fields writable

theorem ofItems_toValues (done items : List Json) (writable : areWritable items = true) :
    ofItems done (toValues items) = .ok (.array (done.reverse ++ items)) :=
  match items with
  | [] => by simp [toValues, ofItems]
  | item :: rest => by
    rw [areWritable, Bool.and_eq_true] at writable
    simp [toValues, ofItems, ofValue_toValue item writable.1,
      ofItems_toValues (item :: done) rest writable.2]

theorem ofEntries_toEntries (done fields : List (Text × Json))
    (writable : fieldsAreWritable fields = true) :
    ofEntries done (toEntries fields) = .ok (.object (done.reverse ++ fields)) :=
  match fields with
  | [] => by simp [toEntries, ofEntries]
  | (name, value) :: rest => by
    rw [fieldsAreWritable, Bool.and_eq_true] at writable
    simp [toEntries, ofEntries, nameOfKey?, ofValue_toValue value writable.1,
      ofEntries_toEntries ((name, value) :: done) rest writable.2]

end

def Style.start (style : Style) (depth : Nat) (left : Char) (before : List (List Char)) :
    List Char :=
  left :: style.break (depth + 1) ++
    before.flatMap fun item => item ++ ',' :: style.break (depth + 1)

/-- The text of broken JSON, which ends where the value that is missing would begin. -/
def Broken.render (style : Style) (depth : Nat) : Broken → List Char
  | .here => []
  | .array before last =>
    style.start depth '[' (renderItems style (depth + 1) before) ++
      last.render style (depth + 1)
  | .object before name last =>
    style.start depth '\x7b' (renderFields style (depth + 1) before) ++ style.string name ++
      ':' :: ' ' :: last.render style (depth + 1)

end TemporalNetwork.Json
