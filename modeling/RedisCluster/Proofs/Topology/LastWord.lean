import RedisCluster.Proofs.Topology.Calls
import RedisCluster.Proofs.Topology.Growth

/-! Calls in a row on an open table: the last of them that speaks of a slot decides who owns it. -/

namespace RedisCluster

/-- The master of a slot is that of the last range with the slot between its ends. -/
theorem Layout.master?_eq_find? (slot : Nat) (ranges : List SlotRange) :
    Layout.master? slot ranges =
      (ranges.reverse.find? fun range => range.first ≤ slot ∧ slot ≤ range.last).map (·.master) := by
  -- A later range comes first in the reverse, so it is the list behind the first range that
  -- decides.
  induction ranges with
  | nil => rfl
  | cons range rest ih =>
    have member : slot ∈ range.slots ↔ range.first ≤ slot ∧ slot ≤ range.last := by
      simp only [SlotRange.slots, List.mem_range'_1]
      omega
    rw [Layout.master?, ih, List.reverse_cons, List.find?_append, Option.map_or]
    -- The first range counts only where none of the later ones has the slot.
    congr 1
    by_cases has : range.first ≤ slot ∧ slot ≤ range.last <;> simp [member, has]

namespace Topology

open Program

variable {topology : Topology}

/-- A node that was registered a moment ago is found as it was. -/
theorem register_register (consistent : topology.Consistent) (node : Endpoint) :
    (topology.register node).2.register node = topology.register node := by
  rcases register_cases topology node with ⟨_, same⟩ | ⟨_, _, _, same⟩ | ⟨accepting, _, grown⟩
  -- The table is closed or knows the node, and registering changes nothing.
  · rw [same, same]
  · rw [same, same]
  · -- The new node is found under its key, so no second pool is made for it.
    have found : (topology.enroll node).lookup node = some ⟨topology.pools.size, node⟩ :=
      (consistent.node?_of_register grown).2
    have open_ : (topology.enroll node).closed = false := accepting
    rw [grown, register, found, open_]
    rfl

/-- Whether slots are given away before a node is registered or after that makes no difference. -/
theorem register_point (topology : Topology) (slots : List Nat) (pool : PoolRef) (node : Endpoint) :
    (topology.point slots pool).register node =
      ((topology.register node).1, (topology.register node).2.point slots pool) := by
  have shut : (topology.point slots pool).closed = topology.closed := rfl
  have known : (topology.point slots pool).lookup node = topology.lookup node := rfl
  -- Nodes are registered without a look at the slots.
  unfold register
  rw [shut, known]
  split
  · rfl
  · split <;> rfl

/-- Slots are given to a pool once and for all. -/
theorem point_point (topology : Topology) (slots : List Nat) (pool : PoolRef) :
    (topology.point slots pool).point slots pool = topology.point slots pool := by
  have same : ((topology.point slots pool).point slots pool).slots =
      (topology.point slots pool).slots := by
    -- Slots are compared by their owners, which the same pool replaces twice.
    refine slots_of_owner fun slot _ => ?_
    simp only [owner_point]
    split <;> rfl
  exact congrArg (fun slots => { topology with slots }) same

/-- An assignment that is made again changes nothing. -/
theorem assign_assign (consistent : topology.Consistent) (slots : List Nat) (node : Endpoint) :
    (topology.assign slots node).2.assign slots node = topology.assign slots node := by
  rcases assign_cases topology slots node with ⟨_, same⟩ | ⟨pool, grown, registered, same⟩
  · rw [same, same]
  · have again := register_register consistent node
    rw [registered] at again
    -- The slots that were given away do not matter to the registration in between.
    rw [same, assign, register_point, again]
    exact congrArg (Prod.mk _) (point_point grown slots pool)

/-- The masters of a layout are known once its ranges are placed. -/
theorem lookup_places (accepting : topology.closed = false) (consistent : topology.Consistent)
    {ranges : List SlotRange} {range : SlotRange} (member : range ∈ ranges) :
    ∃ pool, (ranges.foldl place topology).lookup range.master = some pool := by
  -- Every range is placed into the table that the ones before it have left.
  induction ranges generalizing topology with
  | nil => cases member
  -- The first range is an assignment to an open table, which stays open and consistent.
  | cons first rest ih =>
    have placed : (topology.place first).Consistent := consistent.assign first.slots first.master
    have opened : (topology.place first).closed = false :=
      (assign_open accepting consistent first.slots first.master).1
    rcases List.mem_cons.1 member with rfl | later
    · -- The master is registered by the first range, and the others forget no node.
      rcases assign_cases topology range.slots range.master with
        ⟨shut, _⟩ | ⟨pool, grown, registered, same⟩
      · simp [accepting] at shut
      · have found : (topology.place range).lookup range.master = some pool := by
          rw [place, same]
          exact (consistent.node?_of_register registered).2
        obtain ⟨_, kept, _⟩ := places_open opened placed rest
        have final : (rest.foldl place (topology.place range)).Consistent :=
          List.foldlRecOn rest place placed fun table consistent range _ =>
            consistent.assign range.slots range.master
        exact ⟨pool, lookup_of_nodes final.distinct kept found⟩
    · exact ih opened placed later

/-- Where all masters are known, a layout changes nothing but the owners of slots. -/
theorem places_known (accepting : topology.closed = false) {ranges : List SlotRange}
    (known : ∀ range ∈ ranges, ∃ pool, topology.lookup range.master = some pool) :
    ∃ slots, ranges.foldl place topology = { topology with slots } := by
  induction ranges generalizing topology with
  | nil => exact ⟨topology.slots, rfl⟩
  | cons first rest ih =>
    obtain ⟨pool, found⟩ := known first List.mem_cons_self
    have placed : topology.place first = topology.point first.slots pool := by
      -- Both the flag and the node allow the registration, which finds the node.
      simp [place, assign, register, accepting, found]
    -- With its slots at the pool, the table knows the same nodes as before.
    have accepts : (topology.point first.slots pool).closed = false := accepting
    obtain ⟨slots, same⟩ := ih accepts fun range member => known range (List.mem_cons_of_mem _ member)
    exact ⟨slots, by rw [List.foldl_cons, placed, same]; rfl⟩

/-- A layout that is loaded again changes nothing. -/
theorem rebuild_rebuild (consistent : topology.Consistent) (ranges : List SlotRange) :
    (topology.rebuild ranges).2.rebuild ranges = topology.rebuild ranges := by
  cases shut : topology.closed with
  -- A closed table refuses both times.
  | true => simp [rebuild, shut]
  | false =>
    obtain ⟨loaded, accepting, _⟩ := rebuild_open shut consistent ranges
    have settled := consistent.rebuild ranges
    have again := settled.rebuild ranges
    have whole : topology.rebuild ranges = (.ok (), ranges.foldl place topology.clearSlots) := by
      simp [rebuild, shut]
    -- By now all masters are known, so only the owners could be others.
    have known : ∀ range ∈ ranges, ∃ pool,
        (topology.rebuild ranges).2.clearSlots.lookup range.master = some pool := by
      rw [whole]
      have cleared : topology.clearSlots.closed = false := shut
      exact fun range member => lookup_places cleared consistent.clearSlots member
    have accepts : (topology.rebuild ranges).2.clearSlots.closed = false := accepting
    obtain ⟨slots, same⟩ := places_known accepts known
    -- What is loaded the second time has the nodes and pools of the first time.
    have twice : (topology.rebuild ranges).2.rebuild ranges =
        (.ok (), { (topology.rebuild ranges).2 with slots }) := by
      rw [rebuild, accepting, same]
      rfl
    have owners : slots = (topology.rebuild ranges).2.slots := by
      show Topology.slots { (topology.rebuild ranges).2 with slots } = _
      refine slots_of_owner fun slot inside => ?_
      have first := owners_rebuild shut consistent ranges inside
      have second := owners_rebuild accepting settled ranges inside
      rw [twice] at second again
      -- Both times the owner is the pool that is registered for the master.
      cases given : Layout.master? slot ranges <;> rw [given] at first second
      · exact second.trans first.symm
      · exact (owner_of_ownedBy again second).trans (owner_of_ownedBy settled first).symm
    rw [twice, owners, ← loaded]

namespace Call

/-- A call that is made again is answered as before and changes nothing. -/
theorem outcome_outcome (call : Call) (consistent : topology.Consistent) :
    call.outcome (call.outcome topology).2 = call.outcome topology := by
  cases call with
  -- The three calls of the table are the ones that were compared above.
  | getOrCreate node => simp only [outcome, register_register consistent]
  | assign slots node => simp only [outcome, assign_assign consistent]
  | rebuild ranges => simp only [outcome, rebuild_rebuild consistent]
  -- The second time there is nothing left to be forgotten.
  | reset => rfl
  | close =>
    have again : topology.close.2.close.2 = topology.close.2 := by
      rw [Topology.close, if_pos topology.closed_close]
    simp only [outcome, again]

/-- Only closing the table closes it. -/
theorem outcome_closed {call : Call} (stays : call ≠ .close) (consistent : topology.Consistent) :
    (call.outcome topology).2.closed = topology.closed := by
  have tidy := Tidy.of_consistent consistent
  cases call with
  | getOrCreate node => exact Tidy.closed_register topology node
  | assign slots node => exact (tidy.assign slots node).2
  | rebuild ranges => exact (tidy.rebuild ranges).2
  -- A reset forgets everything but the flag.
  | reset => rfl
  | close => exact absurd rfl stays

/-- What a call says about the owner of a slot, if it says anything: the node, or that there is none. A
layout speaks of every slot, and of its ranges the last one that has the slot counts. -/
def word? (slot : Nat) : Call → Option (Option Endpoint)
  | getOrCreate _ => none
  | assign slots node => if slot ∈ slots then some (some node) else none
  | rebuild ranges =>
    some ((ranges.reverse.find? fun range => range.first ≤ slot ∧ slot ≤ range.last).map (·.master))
  | reset | close => some none

end Call

/-- A slot is owned as some words say, and as it was before where they say nothing. -/
def Told (before after : Topology) (slot : Nat) : Option (Option Endpoint) → Prop
  | some (some node) => after.OwnedBy slot node
  | some none => after.owner slot = none
  | none => after.owner slot = before.owner slot

/-- What is told later overrules what was told before. -/
theorem Told.trans {before middle after : Topology} {slot : Nat}
    {first second : Option (Option Endpoint)} (told : Told before middle slot first)
    (later : Told middle after slot second) : Told before after slot (second.or first) := by
  rcases second with _ | _ | node
  · -- Where nothing is told later, the owner is still the one from before.
    have kept : after.owner slot = middle.owner slot := later
    rcases first with _ | _ | node
    · exact Eq.trans kept told
    · exact Eq.trans kept told
    · exact OwnedBy.of_owner told kept
  · exact later
  · exact later

/-- An open table follows the word of a call. -/
theorem Call.outcome_told {call : Call} (stays : call ≠ .close) (accepting : topology.closed = false)
    (consistent : topology.Consistent) {slot : Nat} (inside : slot < slotCount) :
    Told topology (call.outcome topology).2 slot (call.word? slot) := by
  cases call with
  | getOrCreate node => exact owner_register topology node slot
  | assign slots node =>
    -- The other three speak of the slots that their arguments name, or of all.
    obtain ⟨_, _, _, owners⟩ := assign_open accepting consistent slots node
    have owner := owners slot inside
    -- An assignment speaks of the slots that it lists.
    rw [word?]
    split at owner <;> rename_i given
    · rwa [if_pos given]
    · rwa [if_neg given]
  | rebuild ranges =>
    -- A layout speaks of every slot, by its last range that has the slot.
    have owner := owners_rebuild accepting consistent ranges inside
    rw [word?, ← Layout.master?_eq_find?]
    split at owner <;> rename_i given <;> rwa [given]
  | reset => exact owner_clearSlots topology slot
  | close => exact absurd rfl stays

/-- The program that makes some calls one after the other and tells their answers. -/
def series : List Call → Program (List (Except ClientError (Option PoolRef)))
  | [] => return []
  | call :: rest => do
    let answer ← call.program
    let answers ← series rest
    return answer :: answers

/-- The table after some calls in a row. -/
def after (topology : Topology) (calls : List Call) : Topology :=
  calls.foldl (fun table call => (call.outcome table).2) topology

/-- Calls in a row change nothing but the table. -/
theorem after_of_alone {calls : List Call} {state last : ClientState} {trace : Trace}
    {answers : List (Except ClientError (Option PoolRef))} (consistent : state.topology.Consistent)
    (run : Alone (series calls) state trace answers last) :
    last = { state with topology := state.topology.after calls } := by
  -- The first call is made on the table as it is, the others on what it has made of the table.
  induction calls generalizing state trace answers with
  | nil =>
    -- No call changes nothing.
    obtain ⟨-, -, rfl⟩ := amid_done_iff.1 run
    rfl
  | cons call rest ih =>
    obtain ⟨_, _, answer, middle, -, first, others⟩ := amid_bind_iff.1 run
    obtain ⟨_, _, answers, final, -, later, ended⟩ := amid_bind_iff.1 others
    obtain ⟨-, -, rfl⟩ := amid_done_iff.1 ended
    -- The first call alone makes of the table what it says.
    obtain ⟨-, rfl⟩ := call.outcome_of_alone consistent first
    exact ih (call.outcome_consistent consistent) later

/-- The last word of some calls in a row on the owner of a slot, if any of them speaks of it. -/
def lastWord? (slot : Nat) (calls : List Call) : Option (Option Endpoint) :=
  (calls.filterMap (Call.word? slot)).getLast?

/-- An open table stays open and consistent under calls in a row that do not close it, and follows the
last word on every slot. -/
theorem after_told {calls : List Call} (stays : ∀ call ∈ calls, call ≠ .close)
    (accepting : topology.closed = false) (consistent : topology.Consistent) :
    (topology.after calls).closed = false ∧ (topology.after calls).Consistent ∧
      ∀ slot, slot < slotCount →
        Told topology (topology.after calls) slot (lastWord? slot calls) := by
  -- From the front, so that what a call says may be overruled by those behind it.
  induction calls generalizing topology with
  | nil => exact ⟨accepting, consistent, fun _ _ => rfl⟩
  | cons call rest ih =>
    obtain ⟨first, others⟩ := List.forall_mem_cons.1 stays
    obtain ⟨still, settled, told⟩ := ih others
      ((Call.outcome_closed first consistent).trans accepting) (call.outcome_consistent consistent)
    refine ⟨still, settled, fun slot inside => ?_⟩
    -- The word of the first call counts only where those behind it say nothing.
    have word : lastWord? slot (call :: rest) = (lastWord? slot rest).or (call.word? slot) := by
      cases spoken : call.word? slot <;> simp [lastWord?, spoken, List.getLast?_cons]
    rw [word]
    exact (Call.outcome_told first accepting consistent inside).trans (told slot inside)

/-- The slots that are counted are those with an owner. -/
theorem coveredSlots_eq (topology : Topology) :
    topology.coveredSlots =
      ((List.range slotCount).filter fun slot => (topology.owner slot).isSome).length := by
  -- The slots are listed in order, each with its owner.
  have owners : topology.slots.toList = (List.range slotCount).map topology.owner := by
    refine List.ext_getElem (by simp) fun slot inside _ => ?_
    -- An entry is an owner, if it lies inside of the table.
    have bound : slot < slotCount := by simpa using inside
    simp [owner, bound]
  rw [coveredSlots, owners, List.countP_map, List.countP_eq_length_filter]
  rfl

/-- A slot that belongs to a node belongs to that node under any spelling, and to no other. -/
theorem OwnedBy.iff {slot : Nat} {owner node : Endpoint} (owned : topology.OwnedBy slot owner) :
    topology.OwnedBy slot node ↔ owner.sameNode node = true := by
  -- The owner of the slot is one pool, and the question is to whom it belongs.
  obtain ⟨pool, owns, same⟩ := owned
  have key := Endpoint.sameNode_iff.1 same
  simp only [OwnedBy, owns, Option.some.injEq, exists_eq_left', Endpoint.sameNode_iff, key]

/-- Two tables that are told the same of a slot leave it to the same node. -/
theorem Told.ownedBy_iff {before first second : Topology} {slot : Nat}
    {word : Option (Option Endpoint)} (one : Told before first slot word)
    (other : Told before second slot word) (node : Endpoint) :
    first.OwnedBy slot node ↔ second.OwnedBy slot node := by
  -- Where no node is told, the owner is the old one or none, and the same in both tables.
  rcases word with _ | _ | owner
  · have same : first.owner slot = second.owner slot := Eq.trans one (Eq.symm other)
    simp only [OwnedBy, same]
  · have same : first.owner slot = second.owner slot := Eq.trans one (Eq.symm other)
    simp only [OwnedBy, same]
  · exact (OwnedBy.iff one).trans (OwnedBy.iff other).symm

/-- An assignment to an open table makes its node known, and no other. -/
theorem lookup_assign (accepting : topology.closed = false) (consistent : topology.Consistent)
    (slots : List Nat) (node other : Endpoint) :
    ((topology.assign slots node).2.lookup other).isSome =
      ((topology.lookup other).isSome || node.sameNode other) := by
  -- An open table registers the node.
  rcases assign_cases topology slots node with ⟨shut, _⟩ | ⟨pool, grown, registered, same⟩
  · simp [accepting] at shut
  · obtain ⟨_, found⟩ := consistent.node?_of_register registered
    have given : (topology.assign slots node).2.lookup other = grown.lookup other := by
      rw [same]
      rfl
    rw [given]
    by_cases is : node.sameNode other = true
    · -- Another spelling of the node finds the pool that was registered for it.
      rw [lookup, ← Endpoint.sameNode_iff.1 is, found, is]
      simp
    · have apart : (other.nodeKey == node.nodeKey) = false :=
        beq_eq_false_iff_ne.2 fun same => is (Endpoint.sameNode_iff.2 same.symm)
      rcases register_cases topology node with ⟨_, kept⟩ | ⟨_, _, _, kept⟩ | ⟨_, _, kept⟩ <;>
        obtain ⟨-, rfl⟩ := Prod.mk.inj (kept.symm.trans registered)
      -- The node was known, so nothing is known now that was not.
      · simp [is]
      · simp [is]
      · -- The new entry stands behind the others and has another key.
        simp only [is, lookup, node?, enroll, List.lookup_append, List.lookup_cons, apart,
          List.lookup_nil, Option.or_none, Bool.or_false]

/-- Assignments of different slots may be made in either order. -/
theorem assign_comm (accepting : topology.closed = false) (consistent : topology.Consistent)
    {first second : List Nat} (apart : ∀ slot ∈ first, slot ∉ second) (one other : Endpoint) :
    let forth := topology.after [.assign first one, .assign second other]
    let back := topology.after [.assign second other, .assign first one]
    (∀ slot node, forth.OwnedBy slot node ↔ back.OwnedBy slot node) ∧
      forth.coveredSlots = back.coveredSlots ∧
      ∀ node, (forth.lookup node).isSome = (back.lookup node).isSome := by
  intro forth back
  have stays : ∀ call ∈ [Call.assign first one, .assign second other], call ≠ .close := by simp
  have swapped : ∀ call ∈ [Call.assign second other, .assign first one], call ≠ .close := by simp
  obtain ⟨_, _, toldForth⟩ := after_told stays accepting consistent
  obtain ⟨_, _, toldBack⟩ := after_told swapped accepting consistent
  -- No slot is named by both assignments, so the order of their words does not matter.
  have words : ∀ slot, lastWord? slot [.assign first one, .assign second other] =
      lastWord? slot [.assign second other, .assign first one] := by
    intro slot
    by_cases here : slot ∈ first
    · simp [lastWord?, Call.word?, here, apart slot here]
    · by_cases there : slot ∈ second <;> simp [lastWord?, Call.word?, here, there]
  have owners : ∀ slot node, forth.OwnedBy slot node ↔ back.OwnedBy slot node := by
    intro slot node
    -- Inside the table the words decide, and they are the same in both orders.
    rcases Nat.lt_or_ge slot slotCount with inside | outside
    · exact Told.ownedBy_iff (toldForth slot inside) (words slot ▸ toldBack slot inside) node
    · -- Past the last slot there are no owners.
      have nobody : ∀ table : Topology, ¬ table.OwnedBy slot node := fun table ⟨_, owns, _⟩ =>
        Nat.not_lt_of_ge outside (lt_of_owner owns)
      exact iff_of_false (nobody forth) (nobody back)
  have owned : ∀ (table : Topology) slot,
      (table.owner slot).isSome = true ↔ ∃ node, table.OwnedBy slot node := by
    intro table slot
    rw [Option.isSome_iff_exists]
    exact ⟨fun ⟨pool, owns⟩ => ⟨pool.endpoint, pool, owns, Endpoint.sameNode_iff.2 rfl⟩,
      fun ⟨_, pool, owns, _⟩ => ⟨pool, owns⟩⟩
  refine ⟨owners, ?_, fun node => ?_⟩
  -- The slots are counted by their owners, of which there is one in both tables or in neither.
  · rw [coveredSlots_eq, coveredSlots_eq]
    refine congrArg List.length (List.filter_congr fun slot _ => ?_)
    rw [Bool.eq_iff_iff, owned, owned]
    exact exists_congr (owners slot)
  · -- Both orders make the same two nodes known.
    have known : ∀ (slots more : List Nat) (a b : Endpoint),
        ((topology.after [.assign slots a, .assign more b]).lookup node).isSome =
          ((topology.lookup node).isSome || a.sameNode node || b.sameNode node) := by
      intro slots more a b
      obtain ⟨still, _⟩ := assign_open accepting consistent slots a
      -- The first node is known before the second is.
      exact (lookup_assign still (consistent.assign slots a) more b node).trans
        (by rw [lookup_assign accepting consistent])
    rw [known, known, Bool.or_right_comm]

/-- After any calls in a row that do not close an open table, the last one that speaks of a slot decides
who owns it: the node of an assignment, the master that a layout gives it, or nobody. A slot of which
no call speaks keeps its owner, so it has none in a table that began without owners. The slots that are
counted as covered are those with an owner.

A call that is made twice in a row does what it does once, and assignments of different slots do the
same in either order. -/
theorem owner_follows_last_call {state last : ClientState} {calls : List Call} {trace : Trace}
    {answers : List (Except ClientError (Option PoolRef))}
    (accepting : state.topology.closed = false) (consistent : state.topology.Consistent)
    (bounded : ∀ call ∈ calls, call ≠ .close ∧ call.Bounded)
    (run : Alone (series calls) state trace answers last) :
    (∀ slot, slot < slotCount →
      match lastWord? slot calls with
      | some (some node) => last.topology.OwnedBy slot node
      | some none => last.topology.owner slot = none
      | none => last.topology.owner slot = state.topology.owner slot) ∧
    (∀ slot, slotCount ≤ slot → last.topology.owner slot = none) ∧
    ((∀ slot, state.topology.owner slot = none) → ∀ slot, (lastWord? slot calls).join = none →
      last.topology.owner slot = none) ∧
    last.topology.coveredSlots =
      ((List.range slotCount).filter fun slot => (last.topology.owner slot).isSome).length ∧
    (∀ (call : Call) once twice shorter longer answer answers, call.Bounded →
      Alone (series [call]) last shorter answer once →
      Alone (series [call, call]) last longer answers twice → twice = once) ∧
    ∀ (first second : List Nat) (one other : Endpoint) forth back there here answers replies,
      (∀ slot ∈ first, slot ∉ second) →
      Alone (series [.assign first one, .assign second other]) last there answers forth →
      Alone (series [.assign second other, .assign first one]) last here replies back →
      (∀ slot node, forth.topology.OwnedBy slot node ↔ back.topology.OwnedBy slot node) ∧
        forth.topology.coveredSlots = back.topology.coveredSlots ∧
        ∀ node, (forth.topology.lookup node).isSome = (back.topology.lookup node).isSome := by
  obtain ⟨still, settled, told⟩ := after_told (fun call member => (bounded call member).1)
    accepting consistent
  -- Calls in a row make of the table what `after` says, so it is enough to speak of that.
  obtain rfl := after_of_alone consistent run
  have outer : ∀ slot, slotCount ≤ slot → (state.topology.after calls).owner slot = none := by
    intro slot outside
    rw [Option.eq_none_iff_forall_ne_some]
    exact fun pool owns => Nat.not_lt_of_ge outside (lt_of_owner owns)
  refine ⟨told, outer, fun vacant slot silent => ?_, coveredSlots_eq _, ?_, ?_⟩
  · rcases Nat.lt_or_ge slot slotCount with inside | outside
    · have owner := told slot inside
      rcases word : lastWord? slot calls with _ | _ | node <;> rw [word] at owner silent
      -- Silence leaves a slot as it was, and it had no owner.
      · exact Eq.trans owner (vacant slot)
      · exact owner
      -- A slot that a node was named for is not silent.
      · cases silent
    · exact outer slot outside
  · intro call once twice shorter longer answer answers _ first second
    obtain rfl := after_of_alone settled first
    obtain rfl := after_of_alone settled second
    have same := congrArg Prod.snd (call.outcome_outcome settled)
    exact congrArg (fun table => { state with topology := table }) same
  -- Both orders start from the settled table.
  · intro first second one other forth back there here answers replies apart forward backward
    obtain rfl := after_of_alone settled forward
    obtain rfl := after_of_alone settled backward
    exact assign_comm still settled apart one other

/-- Two ranges of a layout meet in slot 5, which belongs to the later one, and slot 3 is given to a third
node afterwards; nobody speaks of slot 10. -/
theorem owner_follows_last_call_overlap :
    ∃ last, (∃ trace answers, Alone (series
        [.rebuild [⟨0, 5, ⟨"a", 1⟩, []⟩, ⟨5, 9, ⟨"b", 2⟩, []⟩], .assign [3, 20000] ⟨"c", 3⟩])
        (.initial {}) trace answers last) ∧
      last.topology.OwnedBy 4 ⟨"a", 1⟩ ∧ last.topology.OwnedBy 5 ⟨"b", 2⟩ ∧
      last.topology.OwnedBy 3 ⟨"c", 3⟩ ∧ last.topology.owner 10 = none := by
  have run := alone_play (Op.surroundings (fun _ => .ok ()) fun _ _ => .ok .null)
    (series [.rebuild [⟨0, 5, ⟨"a", 1⟩, []⟩, ⟨5, 9, ⟨"b", 2⟩, []⟩], .assign [3, 20000] ⟨"c", 3⟩])
    (.initial {})
  -- None of the two calls closes the table, and the ranges are inside of it.
  obtain ⟨owners, -⟩ := owner_follows_last_call rfl (consistent_new {})
    (by simp [Call.Bounded, slotCount]) run
  exact ⟨_, ⟨_, _, run⟩, owners 4 (by decide), owners 5 (by decide), owners 3 (by decide),
    owners 10 (by decide)⟩

end Topology

end RedisCluster
