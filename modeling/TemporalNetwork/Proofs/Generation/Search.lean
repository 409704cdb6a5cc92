import Mathlib.Data.Finset.Card
import Mathlib.Order.Monotone.Basic
import TemporalNetwork.Proofs.Generation.Freshness

/-!
The search for numerals that are not in use, candidate by candidate. A look at a candidate skips it
when it is in use and gives it when it is not, and the next look is at the one behind it. A request
looks until something is given, and the next request goes on from there. What is skipped is in use,
and nothing is skipped twice, so a search skips at most as many candidates as there are ids in use,
however long it goes on. Main statement: every request ends, and the number of each id that is given
is at least its position plus the count of the ids in use, and at most that count more.
-/

namespace TemporalNetwork

/-! ## The numbers of the ids -/

section Unused

variable {used : List NodeId} {k : Nat}

theorem firstUnused_of_not_mem (free : numeral k ∉ used) : firstUnused used k = k := by
  rw [firstUnused]
  exact dif_neg free

theorem firstUnused_of_mem (taken : numeral k ∈ used) :
    firstUnused used k = firstUnused used (k + 1) := by
  refine firstUnused_congr fun m => ?_
  constructor
  · rintro ⟨above, free⟩
    have apart : k ≠ m := by
      rintro rfl
      exact free taken
    exact ⟨by omega, free⟩
  · rintro ⟨above, free⟩
    exact ⟨by omega, free⟩

end Unused

namespace Allocator

/-- The number of the id that naming gives at a position, counted from zero. -/
def numberAt (used : List NodeId) : Nat → Nat → Nat
  | next, 0 => firstUnused used next
  | next, i + 1 => numberAt used (firstUnused used next + 1) i

theorem take_naming_eq (used : List NodeId) (next n : Nat) :
    (naming used next).take n = (List.range n).map fun i => numeral (numberAt used next i) := by
  induction n generalizing next with
  | zero => rfl
  | succ n ih =>
    rw [take, List.range_succ_eq_map, List.map_cons, List.map_map]
    exact congrArg _ (ih _)

theorem numberAt_lt_succ (used : List NodeId) (next i : Nat) :
    numberAt used next i < numberAt used next (i + 1) := by
  induction i generalizing next with
  | zero => exact le_firstUnused used (firstUnused used next + 1)
  | succ i ih => exact ih (firstUnused used next + 1)

variable {used : List NodeId} {next : Nat}

theorem numberAt_of_mem (taken : numeral next ∈ used) (i : Nat) :
    numberAt used next i = numberAt used (next + 1) i := by
  cases i with
  | zero => exact firstUnused_of_mem taken
  | succ i => rw [numberAt, numberAt, firstUnused_of_mem taken]

theorem numberAt_succ_of_not_mem (free : numeral next ∉ used) (i : Nat) :
    numberAt used next (i + 1) = numberAt used (next + 1) i := by
  rw [numberAt, firstUnused_of_not_mem free]

end Allocator

/-! ## Looking -/

/-- A search at a candidate, with what it has skipped and what it has given, the latest last. -/
structure Search where
  candidate : Nat
  skipped : List Nat
  given : List Nat

namespace Search

def start (used : Finset NodeId) : Search :=
  { candidate := used.card, skipped := [], given := [] }

def look (used : Finset NodeId) (search : Search) : Search :=
  if numeral search.candidate ∈ used then
    { search with
      candidate := search.candidate + 1
      skipped := search.skipped ++ [search.candidate] }
  else
    { search with
      candidate := search.candidate + 1
      given := search.given ++ [search.candidate] }

def after (used : Finset NodeId) (looks : Nat) : Search := (look used)^[looks] (start used)

def answered (search : Search) (skips : Nat) : Search :=
  { candidate := search.candidate + skips + 1
    skipped := search.skipped ++ List.range' search.candidate skips
    given := search.given ++ [search.candidate + skips] }

variable {used : Finset NodeId} {search : Search}

theorem look_of_mem (taken : numeral search.candidate ∈ used) :
    search.look used =
      { candidate := search.candidate + 1
        skipped := search.skipped ++ [search.candidate]
        given := search.given } := if_pos taken

theorem look_of_not_mem (free : numeral search.candidate ∉ used) :
    search.look used = search.answered 0 :=
  (if_neg free).trans (by simp [answered])

theorem after_add (used : Finset NodeId) (looks more : Nat) :
    after used (looks + more) = (look used)^[more] (after used looks) := by
  rw [Nat.add_comm, after, Function.iterate_add_apply]
  rfl

noncomputable def number (used : Finset NodeId) : Nat → Nat :=
  Allocator.numberAt used.toList used.card

/-- What every look keeps. -/
structure Sound (used : Finset NodeId) (search : Search) : Prop where
  /-- Every candidate so far has been skipped or given. -/
  reckoned : search.candidate = used.card + search.skipped.length + search.given.length
  taken : ∀ k ∈ search.skipped, numeral k ∈ used
  below : ∀ k ∈ search.skipped, k < search.candidate
  once : search.skipped.Nodup
  given : search.given = (List.range search.given.length).map (number used)
  /-- From the candidate on come the numbers that have not been given. -/
  rest : ∀ i, Allocator.numberAt used.toList search.candidate i =
    number used (search.given.length + i)

theorem Sound.start (used : Finset NodeId) : Sound used (start used) where
  reckoned := rfl
  taken _ member := absurd member List.not_mem_nil
  below _ member := absurd member List.not_mem_nil
  once := List.nodup_nil
  given := rfl
  rest i := by rw [number, Search.start, List.length_nil, Nat.zero_add]

theorem Sound.skip (sound : Sound used search) (taken : numeral search.candidate ∈ used) :
    Sound used (search.look used) := by
  rw [look_of_mem taken]
  constructor
  case reckoned =>
    simp only [List.length_append, List.length_singleton, sound.reckoned]
    omega
  case taken =>
    intro k member
    rcases List.mem_append.1 member with earlier | last
    · exact sound.taken k earlier
    · exact List.mem_singleton.1 last ▸ taken
  case below =>
    intro k member
    rcases List.mem_append.1 member with earlier | last
    · exact Nat.lt_succ_of_lt (sound.below k earlier)
    · exact List.mem_singleton.1 last ▸ Nat.lt_succ_self _
  case once =>
    refine List.nodup_append.2 ⟨sound.once, List.nodup_singleton _, ?_⟩
    intro k earlier last member
    rw [List.mem_singleton.1 member]
    exact Nat.ne_of_lt (sound.below k earlier)
  case given => exact sound.given
  case rest =>
    intro i
    rw [← Allocator.numberAt_of_mem (Finset.mem_toList.2 taken)]
    exact sound.rest i

theorem Sound.give (sound : Sound used search) (free : numeral search.candidate ∉ used) :
    Sound used (search.look used) := by
  have unlisted : numeral search.candidate ∉ used.toList := fun member =>
    free (Finset.mem_toList.1 member)
  rw [look_of_not_mem free]
  simp only [answered, List.range'_zero, List.append_nil, Nat.add_zero]
  constructor
  case reckoned =>
    simp only [List.length_append, List.length_singleton, sound.reckoned]
    omega
  case taken => exact sound.taken
  case below => exact fun k earlier => Nat.lt_succ_of_lt (sound.below k earlier)
  case once => exact sound.once
  case given =>
    have last : search.candidate = number used search.given.length :=
      (firstUnused_of_not_mem unlisted).symm.trans (sound.rest 0)
    rw [List.length_append, List.length_singleton, List.range_succ, List.map_append,
      ← sound.given, List.map_singleton, ← last]
  case rest =>
    intro i
    rw [← Allocator.numberAt_succ_of_not_mem unlisted, sound.rest, List.length_append,
      List.length_singleton, Nat.add_assoc, Nat.add_comm 1]

theorem Sound.look (sound : Sound used search) : Sound used (search.look used) := by
  by_cases taken : numeral search.candidate ∈ used
  · exact sound.skip taken
  · exact sound.give taken

theorem sound_after (used : Finset NodeId) (looks : Nat) : Sound used (after used looks) := by
  induction looks with
  | zero => exact .start used
  | succ looks ih =>
    rw [after_add]
    exact ih.look

theorem Sound.skipped_length_le (sound : Sound used search) :
    search.skipped.length ≤ used.card := by
  have distinct : (search.skipped.map numeral).Nodup :=
    sound.once.map fun _ _ same => numeral_injective same
  have within : (search.skipped.map numeral).toFinset ⊆ used := by
    intro id member
    obtain ⟨k, skipped, rfl⟩ := List.mem_map.1 (List.mem_toFinset.1 member)
    exact sound.taken k skipped
  calc search.skipped.length
      = (search.skipped.map numeral).length := (List.length_map _).symm
    _ = (search.skipped.map numeral).toFinset.card := (List.toFinset_card_of_nodup distinct).symm
    _ ≤ used.card := Finset.card_le_card within

/-! ## Requests -/

theorem Sound.exists_answered {search : Search} (sound : Sound used search) :
    ∃ skips, search.skipped.length + skips ≤ used.card ∧
      (Search.look used)^[skips + 1] search = search.answered skips := by
  -- By recursion on the count of the ids in use that have not been skipped.
  by_cases taken : numeral search.candidate ∈ used
  · have later := sound.skip taken
    have room := later.skipped_length_le
    obtain ⟨skips, bound, answer⟩ := later.exists_answered
    rw [look_of_mem taken] at room bound answer
    simp only [List.length_append, List.length_singleton] at room bound
    refine ⟨skips + 1, by omega, ?_⟩
    have place : search.candidate + 1 + skips = search.candidate + (skips + 1) := by omega
    rw [Function.iterate_succ_apply, look_of_mem taken, answer]
    simp only [answered, List.range'_succ, List.append_assoc, List.singleton_append, place]
  · exact ⟨0, sound.skipped_length_le, look_of_not_mem taken⟩
termination_by used.card - search.skipped.length
decreasing_by
  rw [look_of_mem taken] at room ⊢
  simp only [List.length_append, List.length_singleton] at room ⊢
  omega

theorem exists_after_answered (used : Finset NodeId) (looks : Nat) :
    ∃ skips, (after used looks).skipped.length + skips ≤ used.card ∧
      after used (looks + (skips + 1)) = (after used looks).answered skips := by
  obtain ⟨skips, bound, answer⟩ := (sound_after used looks).exists_answered
  exact ⟨skips, bound, by rw [after_add, answer]⟩

theorem exists_given_length (used : Finset NodeId) (n : Nat) :
    ∃ looks, (after used looks).given.length = n := by
  induction n with
  | zero => exact ⟨0, rfl⟩
  | succ n ih =>
    obtain ⟨looks, given⟩ := ih
    obtain ⟨skips, _, answer⟩ := exists_after_answered used looks
    refine ⟨looks + (skips + 1), ?_⟩
    rw [answer, answered, List.length_append, given, List.length_singleton]

theorem number_answered {looks skips : Nat}
    (answer : after used (looks + (skips + 1)) = (after used looks).answered skips) :
    number used (after used looks).given.length = (after used looks).candidate + skips := by
  have before := (sound_after used looks).given
  have all := (sound_after used (looks + (skips + 1))).given
  rw [answer, answered, List.length_append, List.length_singleton, List.range_succ,
    List.map_append, ← before] at all
  exact (List.singleton_inj.1 (List.append_cancel_left all)).symm

-- Behind a candidate are the ids given before it and what has been skipped.
theorem number_bounds (used : Finset NodeId) (i : Nat) :
    used.card + i ≤ number used i ∧ number used i ≤ 2 * used.card + i := by
  obtain ⟨looks, before⟩ := exists_given_length used i
  obtain ⟨skips, bound, answer⟩ := exists_after_answered used looks
  have place := number_answered answer
  have reckoned := (sound_after used looks).reckoned
  rw [before] at place reckoned
  omega

/-- A search beside some ids never hangs, and these are the numbers of the ids it gives. -/
structure Productive (used : Finset NodeId) (number : Nat → Nat) : Prop where
  increasing : StrictMono number
  bounds : ∀ i, used.card + i ≤ number i ∧ number i ≤ 2 * used.card + i
  given : ∀ looks, (after used looks).given =
    (List.range (after used looks).given.length).map number
  skipped : ∀ looks, (after used looks).skipped.length ≤ used.card
  /-- At any moment the request that is open, or else the next one, ends after some more skips. -/
  ends : ∀ looks, ∃ skips, (after used looks).skipped.length + skips ≤ used.card ∧
    after used (looks + (skips + 1)) = (after used looks).answered skips

theorem productive_number (used : Finset NodeId) : Productive used (number used) where
  increasing := strictMono_nat_of_lt_succ (Allocator.numberAt_lt_succ _ _)
  bounds := number_bounds used
  given looks := (sound_after used looks).given
  skipped looks := (sound_after used looks).skipped_length_le
  ends := exists_after_answered used

end Search

/-! ## Streams -/

namespace IdStream

/-- What a stream says when it is asked for one id after the other, each time beside the graph that
is current then. -/
def answers : IdStream → List Store → List (Except Fault (List Value))
  | _, [] => []
  | stream, current :: later =>
    (stream.take current 1).1 :: answers (stream.take current 1).2 later

theorem answers_running (allocator : Allocator) (graphs : List Store) :
    (running (.allocated allocator)).answers graphs =
      (allocator.take graphs.length).map fun id => .ok [id.toValue] := by
  induction graphs generalizing allocator with
  | nil => rfl
  | cons current later ih =>
    rw [answers, List.length_cons, Allocator.take, List.map_cons, ← ih]
    rfl

/-- A stream that is opened with a text reads the graph of its first request, and no other. -/
theorem answers_unread_text (last : String) (store : Store) (later : List Store) :
    (unread (.text last) none).answers (store :: later) =
      (running (.allocated (.beside store))).answers (store :: later) := rfl

/-- Whatever ids are in use, a stream of numerals answers every request, and the graph may change
between the requests. The numbers of its ids increase; each is at least its position plus the count
of the ids in use, and at most that count more. In all its life the search skips no more candidates
than that. -/
theorem answers_bounded (used : Finset NodeId) :
    ∃ number : Nat → Nat, Search.Productive used number ∧
      ∀ store : Store, store.ids.Nodup → store.ids.toFinset = used →
        ∀ (last : String) (later : List Store),
          (unread (.text last) none).answers (store :: later) =
            (List.range (later.length + 1)).map fun i => .ok [(numeral (number i)).toValue] := by
  refine ⟨Search.number used, Search.productive_number used, ?_⟩
  intro store distinct holds last later
  have count : store.nodeCount = used.card := by
    rw [← holds, List.toFinset_card_of_nodup distinct, Store.ids, List.length_map]
    rfl
  have same : ∀ id, (Allocator.beside store).Open id ↔
      (Allocator.naming used.toList used.card).Open id := by
    intro id
    cases id with
    | int n => rfl
    | text s =>
      simp only [Allocator.beside, Allocator.Open, count, ← holds, Finset.mem_toList,
        List.mem_toFinset]
  rw [answers_unread_text, answers_running, Allocator.take_congr same, Allocator.take_naming_eq,
    List.map_map]
  rfl

/-- Three texts that are all skipped, one before the first answer and two before the second, which
is as far up as it can be. The graph changes between the requests. -/
theorem answers_bounded_all_skipped :
    let node (s : String) : Call := .node
      { time := .int 1, id := .text s, properties := .none, type := .none }
    let store := (((Store.empty.perform (node "6")).1.perform (node "3")).1.perform (node "5")).1
    let later := [(store.perform (node "7")).1, .empty]
    let used : Finset NodeId := {.text "3", .text "5", .text "6"}
    (store.ids.Nodup ∧ store.ids.toFinset = used) ∧
      (unread (.text "6") none).answers (store :: later) =
        [.ok [.text "4"], .ok [.text "7"], .ok [.text "8"]] ∧
      ∃ number : Nat → Nat, Search.Productive used number ∧
        (unread (.text "6") none).answers (store :: later) =
          (List.range (later.length + 1)).map fun i => .ok [(numeral (number i)).toValue] := by
  intro node store later used
  have distinct : store.ids.Nodup := by decide
  have holds : store.ids.toFinset = used := by decide
  obtain ⟨number, productive, answered⟩ := answers_bounded used
  have given : (Allocator.beside store).take 3 = [.text "4", .text "7", .text "8"] := by
    decide +kernel
  refine ⟨⟨distinct, holds⟩, ?_, number, productive, answered store distinct holds "6" later⟩
  rw [answers_unread_text, answers_running]
  exact congrArg (List.map _) given

end IdStream

end TemporalNetwork
