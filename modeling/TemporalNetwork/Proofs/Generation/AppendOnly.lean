import TemporalNetwork.Proofs.Decimal
import TemporalNetwork.Proofs.Generation.Growth
import TemporalNetwork.Proofs.Reachable
import TemporalNetwork.Proofs.Store.Clock

/-!
A generation only appends. It ends in many ways: with a summary, at an edge that fails, at a
probability that is no number, at an argument that is refused before anything happens. Main
statement: in each of them whatever the graph held is still there, with nothing changed but that new
nodes, new edges and at most one new time for each old edge stand behind the old ones, all of them
after the latest time of before.
-/

namespace TemporalNetwork.Generation

/-- One graph is another one with something appended. -/
structure Appended (before after : Store) : Prop where
  ids : before.ids <+: after.ids
  /-- An old node keeps its history, its type and its properties. -/
  nodes : ∀ id ∈ before.ids, after.bareNode? id = before.bareNode? id
  arrivals : ∀ id ∈ after.ids, id ∉ before.ids →
    ∃ t, startTime before < t ∧ after.bareNode? id = some (.create t id .none)
  /-- An old edge keeps its type and its properties, and has at most one time more. -/
  edges : ∀ source target edge, before.edge? source target = some edge →
    ∃ now, after.edge? source target = some now ∧ now.type = edge.type ∧
      now.properties = edge.properties ∧
      ∃ more : List Nat, now.history.times = edge.history.times ++ more ∧ more.length ≤ 1 ∧
        ∀ t ∈ more, startTime before < t
  links : ∀ source target edge, before.edge? source target = none →
    after.edge? source target = some edge →
      ∃ t, startTime before < t ∧ edge = .create t target .none
  targets : ∀ source node, before.node? source = some node →
    ∃ now, after.node? source = some now ∧ node.targets <+: now.targets
  earliest : ∀ first, before.earliest = some first → after.earliest = some first
  latest : ∀ last, before.latest = some last → ∃ now, after.latest = some now ∧ last ≤ now

/-! ## What has grown was appended -/

section Growth

variable {before after : Store} {arrived : List (Nat × NodeId)}
variable {made : List (Nat × NodeId × NodeId)} (growth : Growth before arrived made after)
include growth

namespace Growth

theorem ids : after.ids = before.ids ++ arrived.map Prod.snd := by
  rw [growth.inserted, Store.ids_insertAll_links growth.joins,
    Store.ids_insertAll_arrivals before arrived growth.new]

theorem lt_of_arrived {entry : Nat × NodeId} (member : entry ∈ arrived) :
    startTime before < entry.1 :=
  (List.pairwise_cons.1 growth.later).1 entry.1
    (List.mem_append_left _ (List.mem_map_of_mem member))

theorem lt_of_made {entry : Nat × NodeId × NodeId} (member : entry ∈ made) :
    startTime before < entry.1 :=
  (List.pairwise_cons.1 growth.later).1 entry.1
    (List.mem_append_right _ (List.mem_map_of_mem member))

theorem node?_arrived :
    (∀ entry ∈ arrived, (before.insertAll (arrived.map .arrival)).node? entry.2 =
        some (.create entry.1 entry.2 .none)) ∧
      ∀ id ∈ before.ids, (before.insertAll (arrived.map .arrival)).node? id = before.node? id := by
  obtain ⟨come, kept⟩ := Store.node?_insertAll_arrivals before arrived growth.new
  refine ⟨come, fun id known => kept id ?_⟩
  intro given
  exact (List.nodup_append.1 growth.new).2.2 id known id given rfl

theorem bareNode? (id : NodeId) :
    after.bareNode? id = (before.insertAll (arrived.map .arrival)).bareNode? id := by
  rw [growth.inserted, Store.bareNode?_insertAll_links growth.joins]

/-- An edge after growth: one of before with the time of its link, if it has one, or a link. -/
theorem edge?_eq (pair : NodeId × NodeId) :
    (∃ entry ∈ made, entry.2 = pair ∧
        after.edge? pair.1 pair.2 =
          some (Store.linked entry.1 pair.2 (before.edge? pair.1 pair.2))) ∨
      after.edge? pair.1 pair.2 = before.edge? pair.1 pair.2 := by
  obtain ⟨linked, kept⟩ := Store.edge?_insertAll_links growth.joins growth.once
  rw [← growth.inserted] at linked kept
  have unmoved := Store.edge?_insertAll_arrivals before arrived growth.new pair.1 pair.2
  by_cases member : pair ∈ made.map Prod.snd
  · obtain ⟨entry, inside, rfl⟩ := List.mem_map.1 member
    refine .inl ⟨entry, inside, rfl, ?_⟩
    rw [linked entry inside, unmoved]
  · exact .inr ((kept pair member).trans unmoved)

theorem lt_time {insertion : Insertion}
    (member : insertion ∈ arrived.map Insertion.arrival ++ made.map Insertion.link) :
    startTime before < insertion.time := by
  rcases List.mem_append.1 member with node | edge
  · obtain ⟨entry, inside, rfl⟩ := List.mem_map.1 node
    exact growth.lt_of_arrived inside
  · obtain ⟨entry, inside, rfl⟩ := List.mem_map.1 edge
    exact growth.lt_of_made inside

theorem appended {times : List Nat} (clocked : before.Clocked times) : Appended before after where
  ids := growth.ids ▸ List.prefix_append _ _
  nodes id known := by
    rw [growth.bareNode?, Store.bareNode?, growth.node?_arrived.2 id known, Store.bareNode?]
  arrivals id inside new := by
    rw [growth.ids] at inside
    obtain ⟨entry, member, rfl⟩ := List.mem_map.1 ((List.mem_append.1 inside).resolve_left new)
    refine ⟨entry.1, growth.lt_of_arrived member, ?_⟩
    rw [growth.bareNode?, Store.bareNode?, growth.node?_arrived.1 entry member]
    rfl
  edges source target edge found := by
    rcases growth.edge?_eq (source, target) with ⟨entry, member, _, linked⟩ | kept
    · rw [found] at linked
      refine ⟨_, linked, rfl, rfl, [entry.1], rfl, Nat.le_refl 1, ?_⟩
      intro t single
      rw [List.mem_singleton.1 single]
      exact growth.lt_of_made member
    · rw [found] at kept
      exact ⟨edge, kept, rfl, rfl, [], (List.append_nil _).symm, Nat.zero_le 1,
        fun t none => absurd none List.not_mem_nil⟩
  links source target edge missing found := by
    rcases growth.edge?_eq (source, target) with ⟨entry, member, _, linked⟩ | kept
    · rw [missing, found, Option.some.injEq] at linked
      exact ⟨entry.1, growth.lt_of_made member, linked⟩
    · rw [missing, found] at kept
      cases kept
  targets source node found := by
    have known := Store.mem_ids_of_node? found
    rw [← growth.node?_arrived.2 source known] at found
    rw [growth.inserted]
    exact Store.targets_insertAll_links growth.joins found
  earliest first shown := by
    -- The first time of before is not after its last, and the new times are after that.
    obtain ⟨least, bound⟩ := List.min?_eq_some_iff.1 (clocked.earliest.symm.trans shown)
    obtain ⟨_, last, _, known, _, before⟩ := clocked.between least
    rw [growth.inserted, ← Store.insertAll_append]
    apply Store.earliest_insertAll shown
    intro insertion member
    have later := growth.lt_time member
    rw [startTime, known, Option.getD_some] at later
    omega
  latest last shown := by
    rw [growth.inserted, ← Store.insertAll_append]
    exact Store.le_latest_insertAll shown _

end Growth

end Growth

/-! ## Every generation only appends -/

theorem exists_clocked {carries : Value → Prop} {store : Store} (reached : Reachable carries store) :
    ∃ times, store.Clocked times := by
  have anyhow : Reachable (fun _ => True) store := reached.mono fun _ _ => trivial
  have step : ∀ (store : Store) (call : Call), True → (∃ times, store.Clocked times) →
      ∃ times, (store.perform call).1.Clocked times := by
    rintro store call - ⟨times, clocked⟩
    rcases clocked.perform call with ⟨t, _, _, moved⟩ | ⟨_, kept⟩
    · exact ⟨times ++ [t], moved⟩
    · exact ⟨times, kept⟩
  exact anyhow.invariant trivial ⟨[], Store.clocked_empty⟩ step

/-- Whatever is asked for, whichever nodes are refused, whichever edge fails and however the
generation ends, it has only appended to the graph. -/
theorem generate_appended {carries : Value → Prop} {guarded : GuardedStore}
    (reached : Reachable carries guarded.store) (resources : Resources) (logging : Logging)
    (request : Request) :
    Appended guarded.store (generate resources logging guarded request).store.store := by
  obtain ⟨times, clocked⟩ := exists_clocked reached
  obtain ⟨arrived, made, growth⟩ := exists_growth reached.wellFormed resources logging request
  rw [generate_store]
  exact growth.appended clocked

/-- One new node is refused, and the second edge breaks: the first one is a new time of the edge
that was there. -/
theorem generate_appended_refused_and_broken :
    let old : Call := .edge
      { time := .int 3, source := .int 1, target := .int 2, properties := .dict [], type := .none }
    let guarded : GuardedStore := {
      store := (Store.empty.perform old).1
      guard := some { refused := [.int 3], failingEdge := some 2, edgeCalls := 0 } }
    let request : Request :=
      { count := .int 2, probability := .int 1, seed := .bytes (List.replicate 32 0) }
    let outcome := generate .zero .strict guarded request
    (Reachable Value.IsPlain guarded.store ∧
      outcome.result = .error (.update (.refused .brokenInvariant)) ∧
      outcome.store.store.ids = [.int 1, .int 2, .int 4] ∧
      outcome.store.store.edgeHistory (.int 1) (.int 2) = .ok [3, 6]) ∧
      Appended guarded.store outcome.store.store := by
  intro old guarded request outcome
  have reached : Reachable Value.IsPlain guarded.store := .call .empty old (.inr ⟨[], rfl⟩)
  have asks : request.Asks 2 (.ofInt 1) .zero := ⟨rfl, rfl, rfl⟩
  have tried : attempts guarded.store 2 = [(4, .int 3), (5, .int 4)] := by decide
  have short : ∀ attempt ∈ attempts guarded.store 2,
      attempt.2.fits = true ∧ Decimal.fits attempt.1 = true := by
    rw [tried]
    simp [NodeId.fits, NodeId.toValue, Value.fits, Decimal.fits_of_lt]
  have told : Told .strict guarded 2 :=
    ⟨fun attempt member _ => (short attempt member).1,
      fun _ attempt member => ⟨(short attempt member).1, fun _ => (short attempt member).2⟩⟩
  have there : members guarded 2 = [.int 1, .int 2, .int 4] := by decide
  have linked : links (.ofInt 1) (Source.ofSeed .zero).stream guarded 2 =
      stamped 5 ((positions 3).map (pick [.int 1, .int 2, .int 4])) := by
    rw [links, sampledPairs, there, sampled, List.filter_eq_self.2 fun _ _ => selects_one _]
    rfl
  -- The run stops at its second link, with the insertions before it made.
  obtain ⟨made, _, broke⟩ := populate_broken (.ofInt 1) (.ofSeed .zero) reached.wellFormed told
    (by rw [linked]; decide : 1 < (links _ _ guarded 2).length) (by decide)
  have ended : run .zero .strict guarded request =
      populate .strict guarded 2 (.ok (.ofInt 1)) (.ofSeed .zero) :=
    run_eq_populate asks .zero .strict guarded
  have lines : insertions (.ofInt 1) (Source.ofSeed .zero).stream guarded 2 1 =
      [.arrival (5, .int 4), .link (6, .int 1, .int 2)] := by
    rw [insertions, linked]
    rfl
  have grew : (generate .zero .strict guarded request).store.store =
      guarded.store.insertAll [.arrival (5, .int 4), .link (6, .int 1, .int 2)] := by
    rw [generate_store, ended, made, grown, lines]
  refine ⟨⟨reached, ?_, ?_, ?_⟩, generate_appended reached .zero .strict request⟩
  · simp only [outcome, generate, ended, broke]
  · rw [grew]
    rfl
  · rw [grew]
    rfl

end TemporalNetwork.Generation
