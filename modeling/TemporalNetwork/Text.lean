/-!
Texts. A text is a list of code points, and a code point is a character or half of a surrogate pair,
which stands for no character of its own. A text without such halves is a string; of any other the
points after its first half are kept one by one. So each list of code points is one text.
-/

namespace TemporalNetwork

/-- Half of a surrogate pair, by its place among all of them: the first halves come before the second
ones. -/
structure Half where
  place : Fin 0x800
  deriving DecidableEq, Repr

def Half.code (h : Half) : Nat := 0xd800 + h.place

inductive Point where
  | char (c : Char)
  | half (h : Half)
  deriving DecidableEq, Repr

namespace Point

def code : Point → Nat
  | .char c => c.toNat
  | .half h => h.code

def ofUnit (unit : Nat) : Point :=
  if surrogate : 0xd800 ≤ unit ∧ unit < 0xe000 then .half ⟨unit - 0xd800, by omega⟩
  else .char (Char.ofNat unit)

def char? : Point → Option Char
  | .char c => some c
  | .half _ => none

-- The codes of the halves are those that no character has.
theorem code_injective {point other : Point} (same : point.code = other.code) : point = other := by
  cases point with
  | char c =>
    cases other with
    | char d => rw [Char.toNat_inj.1 same]
    | half h =>
      have valid : c.toNat < 0xd800 ∨ (0xdfff < c.toNat ∧ c.toNat < 0x110000) := c.valid
      have := h.place.isLt
      simp only [code, Half.code] at same
      omega
  | half g =>
    cases other with
    | char c =>
      have valid : c.toNat < 0xd800 ∨ (0xdfff < c.toNat ∧ c.toNat < 0x110000) := c.valid
      have := g.place.isLt
      simp only [code, Half.code] at same
      omega
    | half h =>
      obtain ⟨place⟩ := g
      obtain ⟨another⟩ := h
      simp only [code, Half.code, Nat.add_left_cancel_iff] at same
      rw [Fin.eq_of_val_eq same]

/-! ## The order of runs of points -/

/-- By code points, the first difference counting; the end comes before everything. -/
def lessEq : List Point → List Point → Bool
  | [], _ => true
  | _ :: _, [] => false
  | first :: rest, other :: others =>
    first.code < other.code || first.code == other.code && lessEq rest others

theorem lessEq_cons {first other : Point} {rest others : List Point} :
    lessEq (first :: rest) (other :: others) = true ↔
      first.code < other.code ∨ first = other ∧ lessEq rest others = true := by
  have codes : first.code = other.code ↔ first = other := ⟨code_injective, congrArg code⟩
  simp [lessEq, codes]

theorem lessEq_refl (points : List Point) : lessEq points points = true := by
  induction points with
  | nil => rfl
  | cons point rest ih => exact lessEq_cons.2 (.inr ⟨rfl, ih⟩)

theorem lessEq_total (points others : List Point) :
    lessEq points others = true ∨ lessEq others points = true := by
  induction points generalizing others with
  | nil => exact .inl rfl
  | cons point rest ih =>
    cases others with
    | nil => exact .inr rfl
    | cons other others =>
      rw [lessEq_cons, lessEq_cons]
      rcases Nat.lt_trichotomy point.code other.code with below | same | above
      · exact .inl (.inl below)
      · cases code_injective same
        exact (ih others).imp (.inr ⟨rfl, ·⟩) (.inr ⟨rfl, ·⟩)
      · exact .inr (.inl above)

theorem lessEq_trans {points others last : List Point} (first : lessEq points others = true)
    (second : lessEq others last = true) : lessEq points last = true := by
  induction points generalizing others last with
  | nil => rfl
  | cons point rest ih =>
    cases others with
    | nil => cases first
    | cons other others =>
      cases last with
      | nil => cases second
      | cons final last =>
        rw [lessEq_cons] at *
        rcases first with below | ⟨rfl, first⟩
        · rcases second with higher | ⟨rfl, _⟩
          · exact .inl (Nat.lt_trans below higher)
          · exact .inl below
        · exact second.imp_right fun ⟨same, second⟩ => ⟨same, ih first second⟩

theorem lessEq_antisymm {points others : List Point} (first : lessEq points others = true)
    (second : lessEq others points = true) : points = others := by
  induction points generalizing others with
  | nil =>
    cases others with
    | nil => rfl
    | cons => cases second
  | cons point rest ih =>
    cases others with
    | nil => cases first
    | cons other others =>
      rw [lessEq_cons] at first second
      rcases first with below | ⟨rfl, first⟩
      · rcases second with above | ⟨rfl, _⟩
        · exact absurd below (Nat.lt_asymm above)
        · exact absurd below (Nat.lt_irrefl _)
      · rcases second with above | ⟨_, second⟩
        · exact absurd above (Nat.lt_irrefl _)
        · rw [ih first second]

end Point

inductive Text where
  | whole (s : String)
  | broken (before : List Char) (half : Half) (after : List Point)
  deriving DecidableEq, Repr

instance : Coe String Text := ⟨.whole⟩

instance : Inhabited Text := ⟨.whole ""⟩

namespace Text

def points : Text → List Point
  | .whole s => s.toList.map .char
  | .broken before half after => before.map .char ++ .half half :: after

/-- The text of code points that come after characters; of these `read` has the last one first. -/
def ofPointsAfter (read : List Char) : List Point → Text
  | [] => .whole (String.ofList read.reverse)
  | .char c :: rest => ofPointsAfter (c :: read) rest
  | .half h :: rest => .broken read.reverse h rest

def ofPoints : List Point → Text := ofPointsAfter []

def isEmpty : Text → Bool
  | .whole s => s.isEmpty
  | .broken .. => false

def lessEq (s t : Text) : Bool := Point.lessEq s.points t.points

theorem points_ofPointsAfter (read : List Char) (points : List Point) :
    (ofPointsAfter read points).points = read.reverse.map .char ++ points := by
  induction points generalizing read with
  | nil => simp [ofPointsAfter, Text.points]
  | cons point rest ih =>
    cases point with
    | char c => simp [ofPointsAfter, ih]
    | half h => rfl

theorem points_ofPoints (points : List Point) : (ofPoints points).points = points :=
  points_ofPointsAfter [] points

theorem ofPointsAfter_chars (read cs : List Char) (points : List Point) :
    ofPointsAfter read (cs.map .char ++ points) = ofPointsAfter (cs.reverse ++ read) points := by
  induction cs generalizing read with
  | nil => rfl
  | cons c rest ih => simp [ofPointsAfter, ih]

theorem ofPoints_points (t : Text) : ofPoints t.points = t := by
  cases t with
  | whole s =>
    have all := ofPointsAfter_chars [] s.toList []
    simp only [List.append_nil] at all
    simp only [ofPoints, points, all, ofPointsAfter, List.reverse_reverse, String.ofList_toList]
  | broken before half after =>
    simp only [ofPoints, points, ofPointsAfter_chars, ofPointsAfter, List.append_nil,
      List.reverse_reverse]

theorem lessEq_antisymm {s t : Text} (first : s.lessEq t = true) (second : t.lessEq s = true) :
    s = t := by
  have points := Point.lessEq_antisymm first second
  rw [← ofPoints_points s, points, ofPoints_points]

end Text

end TemporalNetwork
