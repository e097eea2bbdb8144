import RedisCluster.Proofs.Dispatcher.Failover
import RedisCluster.Proofs.Pool.Permits
import RedisCluster.Proofs.Program.Schedule

/-! Commands that share a client while one node is lost and another one has taken over its slot:
whatever the order of their steps, each of them comes to its end. -/

namespace RedisCluster

namespace Standing

variable (standing : Standing) (exchange : Exchange)

/-- A layout is loaded in no other way. -/
theorem loaded_after (loaded : (standing.after exchange).loaded = true) :
    standing.loaded = true ∨ ∃ ranges, exchange.op = .rebuild ranges := by
  rcases exchange with ⟨op, answer⟩
  -- Looking up an owner and loading a layout are told apart by what they were answered.
  cases op with
  | rebuild ranges => exact .inr ⟨ranges, rfl⟩
  | owner slot => cases answer <;> exact .inl loaded
  | _ => exact .inl loaded

/-- A rediscovery goes on until it ends. -/
theorem rediscovering_after (rediscovering : standing.rediscovering = true)
    (goes_on : exchange.op ≠ .endRediscovery) : (standing.after exchange).rediscovering = true := by
  rcases exchange with ⟨op, answer⟩
  cases op with
  | endRediscovery => exact absurd rfl goes_on
  -- Beginning one more leaves the flag set.
  | beginRediscovery => simp [after, rediscovering]
  | owner slot => cases answer <;> exact rediscovering
  | rebuild ranges => rcases answer with _ | _ <;> exact rediscovering
  | _ => exact rediscovering

/-- A caller is refused by the answer to its wish only. -/
theorem passes_after (refused : false ∈ (standing.after exchange).passes) :
    false ∈ standing.passes ∨ exchange = ⟨.beginRediscovery, false⟩ := by
  rcases exchange with ⟨op, answer⟩
  cases op with
  | beginRediscovery =>
    cases answer with
    | false => exact .inr rfl
    | true => exact .inl (by simpa [after] using refused)
  | owner slot => cases answer <;> exact .inl refused
  | rebuild ranges => rcases answer with _ | _ <;> exact .inl refused
  | _ => exact .inl refused

/-- The pools that a caller hears of are those that the table knows. -/
theorem pools_after {state : ClientState} (consistent : state.topology.Consistent) (op : Op)
    (choice : op.Choice) {pool : PoolRef}
    (heard : pool ∈ (standing.after ⟨op, (state.perform op choice).1⟩).pools) :
    pool ∈ standing.pools ∨ pool ∈ state.topology.knownPools := by
  -- Two kinds of steps tell of pools: the look-up of an owner and the list of all nodes.
  cases op with
  | owner slot =>
    simp only [ClientState.perform] at heard
    cases owns : state.topology.owner slot with
    | none =>
      rw [owns] at heard
      exact .inl heard
    | some owner =>
      rw [owns] at heard
      rcases List.mem_cons.1 heard with rfl | before
      · -- An owner is a registered node, and those are the known ones.
        have registered := Topology.mem_of_node? (consistent.owned slot pool owns)
        exact .inr (List.mem_map.2 ⟨_, registered, rfl⟩)
      · exact .inl before
  | knownPools =>
    rcases List.mem_append.1 heard with told | before
    · refine .inr ?_
      simp only [ClientState.perform] at told
      split at told
      · -- The nodes come in an order that the surroundings choose.
        rename_i order
        exact (List.isPerm_iff.1 order).mem_iff.1 told
      · exact told
    · exact .inl before
  -- Loading a layout names no pools to the caller.
  | rebuild ranges =>
    generalize (state.perform (.rebuild ranges) choice).1 = rebuilt at heard
    rcases rebuilt with _ | _ <;> exact .inl heard
  | _ => exact .inl heard

end Standing

namespace Failover

variable {failover : Failover} {room : Nat} {topology later : Topology} {past : Trace}

/-- What holds of the routing table as long as the failover lasts. -/
structure Scene (failover : Failover) (room : Nat) (topology : Topology) : Prop where
  consistent : topology.Consistent
  accepting : topology.closed = false
  roomy : topology.Roomy room
  /-- The slot still belongs to the lost node, or to the new owner. -/
  owner : ∃ pool, topology.owner failover.slot = some pool ∧ failover.Owns false pool.endpoint
  /-- Some node that is known can be reached. -/
  reachable : ∃ pool ∈ topology.knownPools, failover.isReachable pool.endpoint = true

namespace Scene

/-- The pools of known nodes are open and have room. -/
theorem present (scene : failover.Scene room topology) {ref : PoolRef}
    (known : ref ∈ topology.knownPools) :
    ∃ pool, topology.pool? ref.id = some pool ∧ pool.closed = false ∧
      room ≤ Pool.capacity pool.config := by
  -- Known nodes have live pools, and all of those have the room.
  obtain ⟨entry, member, rfl⟩ := List.mem_map.1 known
  obtain ⟨pool, found, _, accepting⟩ := scene.consistent.live entry member
  exact ⟨pool, found, accepting, scene.roomy.made _ pool found⟩

/-- Steps inside pools leave the scene as it is. -/
theorem steady (scene : failover.Scene room topology) (steady : topology.Steady later) :
    failover.Scene room later where
  consistent := steady.consistent scene.consistent
  accepting := steady.closed.trans scene.accepting
  roomy := by
    refine ⟨steady.config ▸ scene.roomy.fresh, fun id pool found => ?_⟩
    -- The faces of pools do not change, and no slot and no node is touched.
    -- The room of a pool is part of its face.
    obtain ⟨old, there, face⟩ := steady.exists_face found
    simp only [Pool.face, Prod.mk.injEq] at face
    rw [face.2.1]
    exact scene.roomy.made id old there
  owner := by simpa only [steady.owner] using scene.owner
  reachable := by simpa only [Topology.knownPools, steady.nodes] using scene.reachable

/-- A layout that gives the slot to the new owner has the slot belong to it. -/
theorem rebuild (scene : failover.Scene room topology) {ranges : List SlotRange}
    {master : Endpoint} (given : Layout.master? failover.slot ranges = some master)
    (heir : master.sameNode failover.heir = true) :
    failover.Scene room (topology.rebuild ranges).2 ∧
      topology.knownPools ⊆ (topology.rebuild ranges).2.knownPools ∧
      (topology.rebuild ranges).2.OwnedBy failover.slot failover.heir := by
  -- The slot has an owner, so it is a slot of the table.
  obtain ⟨pool, owns, _⟩ := scene.owner
  obtain ⟨_, accepting, nodes, roomy, owners⟩ :=
    Topology.rebuild_open scene.accepting scene.consistent ranges
  obtain ⟨next, owned, same⟩ := owners _ _ (Topology.lt_of_owner owns) given
  -- The master of the slot is the new owner, under another spelling perhaps.
  have same : next.endpoint.sameNode failover.heir = true :=
    Endpoint.sameNode_iff.2 ((Endpoint.sameNode_iff.1 same).trans (Endpoint.sameNode_iff.1 heir))
  have known : topology.knownPools ⊆ (topology.rebuild ranges).2.knownPools :=
    List.map_subset _ nodes
  -- No node is forgotten, so the one that can be reached is still known.
  obtain ⟨other, member, reached⟩ := scene.reachable
  exact ⟨⟨scene.consistent.rebuild ranges, accepting, roomy room scene.roomy,
    ⟨next, owned, .inl same⟩, ⟨other, known member, reached⟩⟩, known, next, owned, same⟩

/-- Whatever a caller is allowed to do, the scene stays, no node is forgotten and the slot does not go
back to the lost node. -/
theorem perform {state : ClientState} (scene : failover.Scene room state.topology)
    {translator : Translator} {op : Op} (allowed : (failover.rules translator).allowed past op)
    (choice : op.Choice) :
    failover.Scene room (state.perform op choice).2.topology ∧
      state.topology.knownPools ⊆ (state.perform op choice).2.topology.knownPools ∧
      (state.topology.OwnedBy failover.slot failover.heir ∨ (∃ ranges, op = .rebuild ranges) →
        (state.perform op choice).2.topology.OwnedBy failover.slot failover.heir) := by
  -- Of the steps that change the table, loading a layout is the only one that callers take.
  by_cases rebuilds : ∃ ranges, op = .rebuild ranges
  · obtain ⟨ranges, rfl⟩ := rebuilds
    obtain ⟨master, given, heir⟩ := allowed
    obtain ⟨rebuilt, known, owned⟩ := scene.rebuild given heir
    exact ⟨rebuilt, known, fun _ => owned⟩
  · -- The rules exclude the other steps that are not steady.
    have quiet : op.isSteady = true := by
      cases op with
      | rebuild ranges => exact absurd ⟨ranges, rfl⟩ rebuilds
      | _ => first | rfl | exact absurd allowed id
    have steady := ClientState.steady_perform quiet state choice
    refine ⟨scene.steady steady, ?_, fun owned => ?_⟩
    · simp only [Topology.knownPools, steady.nodes]
      exact List.Subset.refl _
    · exact (owned.resolve_right rebuilds).of_owner (steady.owner _)

end Scene

/-- Calls that share a client in a failover, with what each of them has done so far. -/
structure Ongoing (failover : Failover) (dispatcher : Dispatcher) (calls : List Command)
    (system : System (Except ClientError Frame)) (past : Nat → Trace) : Prop where
  scene : failover.Scene calls.length system.state.topology
  count : system.tasks.length = calls.length
  attended : ∃ phase, system.Attended phase
  /-- Every call keeps to the rules, or has ended as it may. -/
  conducts : ∀ (index : Nat) task command, system.tasks[index]? = some task →
    calls[index]? = some command → task.Conducts (failover.rules dispatcher.translator)
      (failover.Verdict dispatcher command.toFrame) (past index)
  heard : ∀ index, ∀ pool ∈ (past index).standing.pools, pool ∈ system.state.topology.knownPools
  loaded : ∀ index, (past index).standing.loaded = true →
    system.state.topology.OwnedBy failover.slot failover.heir
  /-- Only one of the calls can be rediscovering. -/
  guarded : system.state.rediscovering = true →
    ∃ index, index < calls.length ∧ (past index).standing.rediscovering = true
  /-- Who was refused a rediscovery is not alone. -/
  refused : ∀ index, false ∈ (past index).standing.passes → 2 ≤ calls.length

namespace Ongoing

variable {dispatcher : Dispatcher} {calls : List Command}
  {system : System (Except ClientError Frame)} {past : Nat → Trace} {index : Nat}

/-- What a call may rely on is what it is told. -/
theorem granted (ongoing : failover.Ongoing dispatcher calls system past) {op : Op}
    {next : op.Answer → Program (Except ClientError Frame)} {holdings : Holdings}
    (found : system.tasks[index]? = some (.running (.ask op next) holdings))
    (allowed : (failover.rules dispatcher.translator).allowed (past index) op) {choice : op.Choice}
    (decides : failover.Decides dispatcher.translator op choice) :
    (failover.rules dispatcher.translator).granted (past index)
      ⟨op, (system.state.perform op choice).1⟩ := by
  have scene := ongoing.scene
  obtain ⟨phase, attended⟩ := ongoing.attended
  -- Only steps that tell the caller something need a reason; the rest is granted anyway.
  cases op with
  -- The scene answers what is asked about the table.
  | isClosed => exact scene.accepting
  | owner slot =>
    rintro rfl
    cases loaded : (past index).standing.loaded with
    | false => exact scene.owner
    | true =>
      -- Once a layout was loaded, the slot belongs to the new owner for good.
      obtain ⟨pool, owns, heir⟩ := ongoing.loaded index loaded
      exact ⟨pool, owns, .inl heir⟩
  | knownPools =>
    obtain ⟨pool, member, reached⟩ := scene.reachable
    refine ⟨pool, ?_, reached⟩
    simp only [ClientState.perform]
    split
    · rename_i order
      exact (List.isPerm_iff.1 order).mem_iff.2 member
    · exact member
  -- There is room for all calls in every pool, so nobody waits.
  | enter ref =>
    obtain ⟨pool, present, accepting, room⟩ := scene.present (ongoing.heard index ref allowed)
    obtain ⟨ticket, entered, _⟩ := attended.enter found present accepting (ongoing.count ▸ room)
    exact ⟨ticket, entered⟩
  | awaitPermit ref ticket =>
    obtain ⟨pool, present, accepting, _⟩ := scene.present (ongoing.heard index ref allowed)
    exact attended.awaitPermit found present accepting
  | rebuild ranges => exact (Topology.rebuild_open scene.accepting scene.consistent ranges).1
  -- What nodes answer is up to the surroundings, who were bound to it.
  | connect ref ticket => exact decides
  | answer lease request => exact decides
  | _ => trivial

/-- A step of a program keeps a rediscovery in the hands of one of the calls. -/
theorem guarded_perform (ongoing : failover.Ongoing dispatcher calls system past)
    (inside : index < calls.length) {op : Op} (choice : op.Choice)
    (rediscovering : (system.state.perform op choice).2.rediscovering = true) :
    ∃ other, other < calls.length ∧ (if index = other then
      (past other).standing.after ⟨op, (system.state.perform op choice).1⟩
      else (past other).standing).rediscovering = true := by
  -- What was under way before goes on, whoever takes the step.
  have goes_on : system.state.rediscovering = true → op ≠ .endRediscovery →
      ∃ other, other < calls.length ∧ (if index = other then
        (past other).standing.after ⟨op, (system.state.perform op choice).1⟩
        else (past other).standing).rediscovering = true := by
    intro before apart
    obtain ⟨other, there, guards⟩ := ongoing.guarded before
    refine ⟨other, there, ?_⟩
    split
    · exact Standing.rediscovering_after _ _ guards apart
    · exact guards
  -- A rediscovery ends by one kind of step only, and begins by one.
  cases op with
  | beginRediscovery =>
    cases before : system.state.rediscovering with
    | true => exact goes_on before (by simp)
    | false =>
      -- Nobody was rediscovering, so this call begins.
      refine ⟨index, inside, ?_⟩
      simp [ClientState.perform, Standing.after, before]
  -- When a rediscovery ends, none is under way.
  | endRediscovery => simp [ClientState.perform] at rediscovering
  -- Steps in pools have nothing to do with rediscoveries.
  | enter ref =>
    refine goes_on ?_ (by simp)
    simp only [ClientState.perform, ClientState.onPool] at rediscovering
    split at rediscovering <;> exact rediscovering
  | awaitPermit ref ticket =>
    refine goes_on ?_ (by simp)
    simp only [ClientState.perform, ClientState.onPool] at rediscovering
    split at rediscovering <;> exact rediscovering
  | takeIdle ref ticket =>
    refine goes_on ?_ (by simp)
    simp only [ClientState.perform, ClientState.onPool] at rediscovering
    split at rediscovering <;> exact rediscovering
  | send lease request => cases lease <;> exact goes_on rediscovering (by simp)
  | answer lease request => cases lease <;> exact goes_on rediscovering (by simp)
  | dial node => cases choice <;> exact goes_on rediscovering (by simp)
  | _ => exact goes_on rediscovering (by simp)

/-- One more step of one call changes nothing about the situation. -/
theorem step (ongoing : failover.Ongoing dispatcher calls system past)
    {surroundings : (op : Op) → op.Choice}
    (decides : ∀ op, failover.Decides dispatcher.translator op (surroundings op)) (index : Nat) :
    failover.Ongoing dispatcher calls (system.move (.step index surroundings)) fun other =>
      past other ++ if index = other then (system.turn? index surroundings).toList else [] := by
  -- The call takes a step, comes to its end, or has nothing to do.
  rcases system.move_step_cases index surroundings with
    ⟨op, next, holdings, found, turn, moved⟩ | ⟨value, holdings, found, turn, moved⟩ | ⟨turn, moved⟩
  -- A running call takes one step, which its rules allow.
  · have present : index < calls.length :=
      ongoing.count ▸ (List.getElem?_eq_some_iff.1 found).1
    have call := List.getElem?_eq_getElem present
    obtain ⟨allowed, follows⟩ := ongoing.conducts index _ _ found call
    have granted := ongoing.granted found allowed (decides op)
    obtain ⟨scene, known, owned⟩ := ongoing.scene.perform allowed (surroundings op)
    obtain ⟨phase, attended⟩ := ongoing.attended
    have attended := attended.step found surroundings fun ref same => by
      subst same
      obtain ⟨pool, there, accepting, room⟩ :=
        ongoing.scene.present (ongoing.heard index ref allowed)
      exact ⟨pool, there, accepting, ongoing.count ▸ room⟩
    -- The call that took the step knows what the step has shown, and the others know what they knew.
    have standing : ∀ other, Trace.standing (past other ++
        if index = other then (system.turn? index surroundings).toList else []) =
          if index = other then
            (past other).standing.after ⟨op, (system.state.perform op (surroundings op)).1⟩
          else (past other).standing := by
      intro other
      rw [turn]
      split <;> simp
    rw [moved] at attended ⊢
    refine ⟨scene, by rw [List.length_set, ongoing.count], attended,
      fun other task command located asked => ?_, fun other pool member => ?_,
      fun other loaded => ?_, fun rediscovering => ?_, fun other refused => ?_⟩
    · -- The call keeps to the rules, as it was told what it may rely on.
      rw [List.getElem?_set] at located
      split at located
      · rename_i same
        subst same
        rw [call, Option.some.injEq] at asked
        subst asked
        -- Its own program has moved on; the tasks of the others are untouched.
        split at located
        · rw [← Option.some.inj located, turn, if_pos rfl]
          exact follows _ granted
        · cases located
      · rename_i apart
        rw [if_neg apart, List.append_nil]
        exact ongoing.conducts other task command located asked
    · -- Every pool that it heard of is known, and is not forgotten.
      rw [standing] at member
      split at member
      · rcases Standing.pools_after _ ongoing.scene.consistent op _ member with before | told
        · exact known (ongoing.heard other pool before)
        · exact known told
      · exact known (ongoing.heard other pool member)
    · -- If it has loaded a layout, the slot belongs to the new owner, by this step or an earlier
      -- one.
      rw [standing] at loaded
      split at loaded
      · refine owned ((Standing.loaded_after _ _ loaded).imp_left (ongoing.loaded other))
      · exact owned (.inl (ongoing.loaded other loaded))
    · simp only [standing]
      exact ongoing.guarded_perform present (surroundings op) rediscovering
    · -- If it was refused, there is another call.
      rw [standing] at refused
      split at refused
      · rename_i same
        subst same
        rcases Standing.passes_after _ _ refused with before | denied
        · exact ongoing.refused index before
        · -- Somebody else is rediscovering while this call is not.
          obtain ⟨rfl, answered⟩ := Exchange.mk.inj denied
          have under_way : system.state.rediscovering = true := by
            simpa [ClientState.perform] using eq_of_heq answered
          obtain ⟨guard, there, guards⟩ := ongoing.guarded under_way
          have idle : (past index).standing.rediscovering = false := allowed
          have apart : guard ≠ index := by
            rintro rfl
            simp [guards] at idle
          omega
      · exact ongoing.refused other refused
  · -- A call that ends leaves everything to the others as it was.
    simp only [turn, Option.toList_none, ite_self, List.append_nil]
    rw [moved]
    obtain ⟨phase, attended⟩ := ongoing.attended
    refine ⟨ongoing.scene, by rw [List.length_set, ongoing.count], ⟨phase, attended.finish found⟩,
      fun other task command located asked => ?_, ongoing.heard, ongoing.loaded, ongoing.guarded,
      ongoing.refused⟩
    rw [List.getElem?_set] at located
    split at located
    · rename_i same
      subst same
      -- What the program came to is what has come of the task.
      have ended := ongoing.conducts index _ command found asked
      split at located
      · rw [← Option.some.inj located]
        exact ended
      · cases located
    · exact ongoing.conducts other task command located asked
  · simpa only [turn, moved, Option.toList_none, ite_self, List.append_nil] using ongoing

/-- The situation is the same after any number of turns. -/
theorem after (ongoing : failover.Ongoing dispatcher calls system fun _ => []) {schedule : Schedule}
    (decides : ∀ moment op, failover.Decides dispatcher.translator op ((schedule moment).2 op))
    (moment : Nat) : failover.Ongoing dispatcher calls (system.after schedule moment) fun other =>
      system.steps schedule other moment := by
  -- The situation holds at the start, and each turn carries it on.
  induction moment with
  | zero => exact ongoing
  | succ moment ih =>
    -- One turn is one step of the call whose turn it is.
    have next := ih.step (decides moment) (schedule moment).1
    have same : (fun other => system.steps schedule other (moment + 1)) = fun other =>
        system.steps schedule other moment ++ if (schedule moment).1 = other then
          ((system.after schedule moment).turn? (schedule moment).1 (schedule moment).2).toList
        else [] := by
      funext other
      rw [System.steps]
      split
      · rename_i turn
        rw [turn]
      · rfl
    rw [same]
    exact next

end Ongoing

/-- The calls of some commands, about to start. -/
def gathering (dispatcher : Dispatcher) (calls : List Command) (state : ClientState) :
    System (Except ClientError Frame) :=
  ⟨state, calls.map fun command => Task.new (dispatcher.execute command)⟩

variable {dispatcher : Dispatcher} {calls : List Command} {state : ClientState}

/-- Calls that are about to start know nothing. -/
theorem ongoing_gathering (scene : failover.Scene calls.length state.topology)
    (vacant : ∀ id pool, state.topology.pool? id = some pool → pool.Sound ∧ pool.tickets = [])
    (quiet : state.rediscovering = false)
    (keyed : ∀ command ∈ calls, command.slot = .ok (some failover.slot)) :
    failover.Ongoing dispatcher calls (gathering dispatcher calls state) fun _ => [] where
  scene := scene
  count := List.length_map _
  attended := by
    -- Nobody is in a pool yet, and nobody has done anything.
    refine ⟨fun _ => .away, System.occupied_of_vacant vacant fun task member => ?_,
      fun _ _ _ inside => by cases inside⟩
    obtain ⟨command, _, rfl⟩ := List.mem_map.1 member
    exact ⟨_, dispatcher.execute_visiting command, rfl⟩
  -- Each of the calls is an `execute`, which keeps to the rules from its start.
  conducts index task command found call := by
    simp only [gathering, List.getElem?_map, call, Option.map_some, Option.some.injEq] at found
    subst found
    exact execute_conducts (keyed command (List.mem_of_getElem? call))
  heard index pool member := by simp [Trace.standing] at member
  loaded index loaded := by simp [Trace.standing] at loaded
  guarded rediscovering := by simp [gathering, quiet] at rediscovering
  refused index refused := by simp [Trace.standing] at refused

/-- A slot belongs to a node that is lost, some known node can be reached, all that can be know the
new owner of the slot, and pools have room for all calls. Then every call for the slot that keeps
getting its turns comes to its end, in whatever order the calls take their steps. It ends with a reply
of the new owner, unless it used up all its attempts while the rediscovery of another call was under
way each time that it wanted one of its own, the last time perhaps excepted. -/
theorem execute_through_failover {schedule : Schedule} (budget : 2 ≤ dispatcher.maxRedirects)
    (scene : failover.Scene calls.length state.topology)
    (vacant : ∀ id pool, state.topology.pool? id = some pool → pool.Sound ∧ pool.tickets = [])
    (quiet : state.rediscovering = false)
    (keyed : ∀ command ∈ calls, command.slot = .ok (some failover.slot))
    (decides : ∀ moment op, failover.Decides dispatcher.translator op ((schedule moment).2 op))
    {index : Nat} {command : Command} (call : calls[index]? = some command)
    (turns : ∀ moment, ∃ later, moment ≤ later ∧ (schedule later).1 = index) :
    ∃ moment result,
      ((gathering dispatcher calls state).after schedule moment).tasks[index]? =
        some (.finished result) ∧
      failover.Verdict dispatcher command.toFrame
        ((gathering dispatcher calls state).steps schedule index moment) result ∧
      (calls.length = 1 → ∃ reply, result = .ok reply) := by
  -- The situation holds when the calls start, and it says how each of them may end.
  have starting : failover.Ongoing dispatcher calls (gathering dispatcher calls state) fun _ => [] :=
    ongoing_gathering scene vacant quiet keyed
  have running : ((gathering dispatcher calls state).after schedule 0).tasks[index]? =
      some (Task.new (dispatcher.execute command)) := by
    simp [System.after, gathering, call]
  -- Its turns do not end, so the call does.
  obtain ⟨moment, result, ended⟩ := System.finishes turns running
  -- By then it still keeps to the rules, which say how it may have ended.
  have ongoing := starting.after decides moment
  have verdict := ongoing.conducts index _ command ended call
  refine ⟨moment, result, ended, verdict, fun alone => ?_⟩
  -- The call got its reply, or it was refused each time it wanted to rediscover.
  rcases verdict with ⟨_, reply, answered, _⟩ | ⟨_, _, _, count, refusals⟩
  · exact ⟨reply, answered⟩
  · -- It was refused at least once, so there is another call.
    have refused : false ∈ ((gathering dispatcher calls state).steps schedule index
        moment).standing.passes := by
      -- With two attempts at least, the first rediscovery is not the last one.
      generalize Trace.standing _ = standing at count refusals ⊢
      rcases asked : standing.passes with _ | ⟨first, _ | ⟨second, rest⟩⟩
      · simp [asked] at count
        omega
      · simp [asked] at count
        omega
      · cases first with
        | false => simp
        | true => simp [asked] at refusals
    have company := ongoing.refused index refused
    omega

/-- The node on port 7001 has taken slot 3 over from the one on port 7000, and no other node is gone. -/
def promotion : Failover where
  slot := 3
  lost := ⟨"127.0.0.1", 7000⟩
  heir := ⟨"127.0.0.1", 7001⟩
  isReachable node := !node.sameNode ⟨"127.0.0.1", 7000⟩
  congr same := by
    congr 1
    rw [Bool.eq_iff_iff, Endpoint.sameNode_iff, Endpoint.sameNode_iff, Endpoint.sameNode_iff.1 same]
  lost_unreachable := by decide +kernel
  heir_reachable := by decide +kernel

/-- A layout that gives all slots to the new owner. -/
def promoted : Frame :=
  .array [.array [.integer 0, .integer 16383,
    .array [.bulk (some (Utf8.encode "127.0.0.1")), .integer 7001]]]

/-- The nodes that are left report the new layout; `failure` is how the lost node refuses. -/
def promoting (failure : ClientError) : (op : Op) → op.Choice :=
  Op.surroundings (fun node => if promotion.isReachable node then .ok () else .error failure)
    fun lease request =>
      if promotion.isReachable lease.endpoint then
        match request with
        | .layout => .ok promoted
        | _ => .ok .ok
      else .error failure

/-- What those nodes decide is what is decided in a failover, if refusals are failures to connect. -/
theorem promoting_decides {failure : ClientError} (lost : failure.isConnectivity = true) (op : Op) :
    promotion.Decides .identity op (promoting failure op) := by
  -- Opening connections and answering are the only choices that a failover binds.
  cases op with
  | connect pool ticket =>
    show promotion.Connects _ (if promotion.isReachable pool.endpoint then _ else _)
    unfold Connects
    split
    · -- Nodes that can be reached let everybody in, and the lost one nobody.
      rfl
    · exact ⟨failure, rfl, lost⟩
  | answer lease request =>
    show promotion.Answers _ _ _ (if promotion.isReachable lease.endpoint then _ else _)
    unfold Answers
    split
    · cases request with
      -- They all report one layout, and reply to commands.
      | layout => exact ⟨[⟨0, 16383, promotion.heir, []⟩], promotion.heir, rfl, by decide +kernel,
          by decide +kernel⟩
      | command frame => exact fun _ => ⟨.ok, rfl, rfl⟩
      | _ => trivial
    · exact ⟨failure, rfl, lost⟩
  | _ => trivial

/-- A client that knows both nodes and takes the lost one for the owner of the slot. -/
def behind : ClientState :=
  let outdated := ((ClientState.initial {}).perform (.assign [3] promotion.lost) ()).2
  (outdated.perform (.assign [] promotion.heir) ()).2

/-- Such a client is ready for the failover. -/
theorem scene_behind {room : Nat} (few : room ≤ 8) : promotion.Scene room behind.topology ∧
    ∀ id pool, behind.topology.pool? id = some pool → pool.Sound ∧ pool.tickets = [] := by
  have consistent := Topology.consistent_new {}
  -- Two assignments have made the table, the second of no slots.
  obtain ⟨accepting, _, roomy, owners⟩ := Topology.assign_open rfl consistent [3] promotion.lost
  have outdated := consistent.assign [3] promotion.lost
  obtain ⟨still, _, rooms, kept⟩ := Topology.assign_open accepting outdated [] promotion.heir
  have vacant : Topology.Roomy { config := {} } room :=
    ⟨few, fun id pool found => by simp [Topology.pool?] at found⟩
  refine ⟨⟨outdated.assign [] promotion.heir, still, rooms room (roomy room vacant), ?_, by
    decide +kernel⟩, ?_⟩
  · -- The slot was given to the node that is lost now.
    have given : 3 < slotCount := by decide
    obtain ⟨pool, owns, lost⟩ := owners 3 given
    exact ⟨pool, (kept 3 given).trans owns, .inr ⟨rfl, lost⟩⟩
  · -- Nobody has used a pool since it was made.
    have renewed := (Renewed.assign { config := {} } [3] promotion.lost).trans
      (.assign _ [] promotion.heir)
    exact fun id pool found => renewed.fresh id pool (by simp [Topology.pool?]) found

/-- Some callers want the same key of that slot. -/
def callers (count : Nat) : System (Except ClientError Frame) :=
  gathering (Dispatcher.new .identity 2) (List.replicate count (.get (Utf8.encode "raw"))) behind

/-- Two callers take turns, after some moves in another order. -/
def interleaved (order : List Nat) (failure : ClientError) : Schedule :=
  fun moment => (order.getD moment (moment % 2), promoting failure)

/-- Two callers who take turns come to an end, with a reply or after two attempts. -/
theorem execute_through_promotion :
    ∃ moment result,
      ((callers 2).after (interleaved [] (.io "connection refused")) moment).tasks[1]? =
        some (.finished result) ∧
      promotion.Verdict (Dispatcher.new .identity 2) (Command.get (Utf8.encode "raw")).toFrame
        ((callers 2).steps (interleaved [] (.io "connection refused")) 1 moment) result := by
  obtain ⟨scene, vacant⟩ := scene_behind (by decide : 2 ≤ 8)
  have raw : (Command.get (Utf8.encode "raw")).slot = .ok (some 3) := by decide +kernel
  -- All callers want the same key, so all of them are for the slot.
  have keyed : ∀ command ∈ List.replicate 2 (Command.get (Utf8.encode "raw")),
      command.slot = .ok (some promotion.slot) := by
    intro command member
    rw [List.eq_of_mem_replicate member]
    exact raw
  have turns : ∀ moment, ∃ later, moment ≤ later ∧
      (interleaved [] (.io "connection refused") later).1 = 1 := by
    intro moment
    -- The second caller has all odd moments.
    refine ⟨2 * moment + 1, by omega, ?_⟩
    show (2 * moment + 1) % 2 = 1
    omega
  have decides : ∀ moment op, promotion.Decides (Dispatcher.new .identity 2).translator op
      ((interleaved [] (.io "connection refused") moment).2 op) :=
    fun _ => promoting_decides rfl
  obtain ⟨moment, result, ended, verdict, _⟩ := execute_through_failover (by decide : 2 ≤ 2) scene
    vacant rfl keyed decides rfl turns
  exact ⟨moment, result, ended, verdict⟩

/-- What has come of a caller after some moves. -/
def outcome? (system : System (Except ClientError Frame)) (index : Nat) :
    Option (Except ClientError Frame) :=
  match system.tasks[index]? with
  | some (.finished result) => some result
  | _ => none

/-- A caller who tries twice while another one has just begun to rediscover has no attempts left, and
a caller whom the lost node refuses by an answer tries only once. -/
theorem caller_without_reply :
    let overtaken := interleaved (List.replicate 7 0 ++ List.replicate 15 1)
      (.io "connection refused")
    promotion.Scene 2 behind.topology ∧
      (∀ moment op, promotion.Decides .identity op ((overtaken moment).2 op)) ∧
      outcome? ((callers 2).after overtaken 22) 1 =
        some (.error (.clusterUnavailable 2 (.io "connection refused"))) ∧
      outcome? ((callers 1).after (interleaved [] (.auth "WRONGPASS")) 14) 0 =
        some (.error (.auth "WRONGPASS")) := by
  -- The first caller has taken seven steps, and the second one takes all of its own before the eighth.
  exact ⟨(scene_behind (by decide)).1, fun _ => promoting_decides rfl, by decide +kernel,
    by decide +kernel⟩

end Failover

end RedisCluster
