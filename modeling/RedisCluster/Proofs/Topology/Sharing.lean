import RedisCluster.Proofs.Client.Business
import RedisCluster.Proofs.Program.Turns
import RedisCluster.Proofs.Topology.Calls
import RedisCluster.Proofs.Topology.Roster

/-! Calls on one open table at the same time: a node is looked up by one step and registered by another,
and still all calls for it share one pool. -/

namespace RedisCluster

/-- The pool that a step has found or made for a node. -/
def Exchange.finds? : Exchange → Option (Endpoint × PoolRef)
  | ⟨.lookup node, some pool⟩ => some (node, pool)
  | ⟨.register node, .ok pool⟩ => some (node, pool)
  | ⟨.assign _ node, .ok pool⟩ => some (node, pool)
  | _ => none

/-- A step was refused because the table is closed. -/
def Exchange.isRefused : Exchange → Bool
  | ⟨.register _, .error _⟩ | ⟨.assign _ _, .error _⟩ | ⟨.rebuild _, .error _⟩ => true
  | _ => false

namespace Topology

/-- A table has grown from an earlier one: it is open, it has forgotten no node, and every pool made in
between is the one that is registered for its node. -/
structure Grown (before topology : Topology) : Prop where
  consistent : topology.Consistent
  accepting : topology.closed = false
  kept : before.nodes ⊆ topology.nodes
  fresh : ∀ id found, before.pools.size ≤ id → topology.pool? id = some found →
    topology.lookup found.endpoint = some ⟨id, found.endpoint⟩

namespace Grown

variable {before topology : Topology}

/-- An open table has grown from itself, without any new pools. -/
theorem refl (consistent : topology.Consistent) (accepting : topology.closed = false) :
    Grown topology topology :=
  ⟨consistent, accepting, List.Subset.refl _, fun _ _ beyond found =>
    absurd (lt_size_of_pool? found) (Nat.not_lt_of_ge beyond)⟩

/-- A table grows by the nodes that are registered. -/
theorem register (grown : Grown before topology) (node : Endpoint) :
    Grown before (topology.register node).2 := by
  have consistent := grown.consistent.register node
  have kept := nodes_register topology node
  -- The nodes of before are still there, and so are those that came since.
  refine ⟨consistent, (Tidy.closed_register topology node).trans grown.accepting,
    List.Subset.trans grown.kept kept, fun id found beyond present => ?_⟩
  -- A pool that was made before stays with its node.
  have old : topology.pool? id = some found →
      (topology.register node).2.lookup found.endpoint = some ⟨id, found.endpoint⟩ :=
    fun made => lookup_of_nodes consistent.distinct kept (grown.fresh id found beyond made)
  rcases register_cases topology node with ⟨_, same⟩ | ⟨_, _, _, same⟩ | ⟨_, _, same⟩
  -- Nothing was made, so every pool is an old one.
  · exact old (by rwa [same] at present)
  · exact old (by rwa [same] at present)
  · have registered := (grown.consistent.node?_of_register same).2
    rw [same, pool?_enroll] at present
    split at present
    · -- The new pool is the one of the node that it was made for.
      rename_i last
      obtain rfl := Option.some.inj present
      rw [same, last]
      exact registered
    · exact old present

/-- A table grows by the node that slots are given to. -/
theorem assign (grown : Grown before topology) (slots : List Nat) (node : Endpoint) :
    Grown before (topology.assign slots node).2 := by
  have consistent := grown.consistent.assign slots node
  have registered := grown.register node
  rcases assign_cases topology slots node with ⟨_, same⟩ | ⟨pool, after, made, same⟩
  -- Nothing was registered, and nothing given away.
  · rwa [same]
  · -- The slots are written without a look at the nodes.
    rw [made] at registered
    rw [same] at consistent ⊢
    exact ⟨consistent, registered.accepting, registered.kept, registered.fresh⟩

/-- A table grows by the masters of a layout. -/
theorem rebuild (grown : Grown before topology) (ranges : List SlotRange) :
    Grown before (topology.rebuild ranges).2 :=
  rebuild_induction (motive := Grown before) ranges grown
    -- To clear the owners leaves nodes and pools alone.
    ⟨grown.consistent.clearSlots, grown.accepting, grown.kept, grown.fresh⟩
    fun _ slots node grown => grown.assign slots node

/-- What happens inside pools makes no difference to the growth of a table. -/
theorem steady (grown : Grown before topology) {after : Topology}
    (steady : topology.Steady after) : Grown before after := by
  refine ⟨steady.consistent grown.consistent, steady.closed.trans grown.accepting,
    steady.nodes ▸ grown.kept, fun id found beyond present => ?_⟩
  -- A pool that is found now was there before, for the same node.
  obtain ⟨old, there, face⟩ := steady.exists_face present
  have same : found.endpoint = old.endpoint := congrArg Prod.fst face
  rw [lookup, node?, steady.nodes, same]
  exact grown.fresh id old beyond there

end Grown

/-- A node that is known has exactly one pool among those that are registered. -/
theorem knownPools_filter {topology : Topology} (consistent : topology.Consistent) {node : Endpoint}
    {pool : PoolRef} (found : topology.lookup node = some pool) :
    topology.knownPools.filter (fun known => known.endpoint.sameNode node) = [pool] := by
  -- Whatever is registered for the node is what is found for it, and nothing is registered twice.
  have only : ∀ known ∈ topology.knownPools.filter (fun known => known.endpoint.sameNode node),
      known = pool := by
    intro known member
    obtain ⟨listed, same⟩ := List.mem_filter.1 member
    obtain ⟨entry, present, rfl⟩ := List.mem_map.1 listed
    have here := node?_of_mem consistent.distinct present
    rw [consistent.keyed entry present, Endpoint.sameNode_iff.1 same] at here
    exact Option.some.inj (here.symm.trans found)
  have member : pool ∈ topology.knownPools.filter (fun known => known.endpoint.sameNode node) :=
    List.mem_filter.2 ⟨List.mem_map_of_mem (mem_of_node? found),
      Endpoint.sameNode_iff.2 (consistent.nodeKey_of_lookup found)⟩
  have copies := List.eq_replicate_of_mem only
  have once : (topology.knownPools.filter fun known => known.endpoint.sameNode node).Nodup :=
    consistent.nodup_knownPools.filter _
  -- There is one copy at most, and at least the one that was found.
  rw [copies, List.nodup_replicate] at once
  rw [copies, Nat.le_antisymm once (List.length_pos_of_mem member)]
  rfl

end Topology

namespace ClientState

variable {state : ClientState}

/-- A table grows under every step that closes nothing. -/
theorem grown_perform {before : Topology} (grown : before.Grown state.topology) {op : Op}
    (open_ : op.closes = false) (choice : op.Choice) :
    before.Grown (state.perform op choice).2.topology := by
  -- Whoever closes nothing leaves the nodes there are, and may bring more.
  cases op, choice using Op.steady_cases with
  | steady op choice steady => exact grown.steady (steady_perform steady state choice)
  | register node => exact grown.register node
  | assign slots node => exact grown.assign slots node
  | rebuild ranges => exact grown.rebuild ranges
  | reset => cases open_
  | close => cases open_
  | closePool pool => cases open_

/-- The pool that a step finds for a node is the one that is registered for the node. -/
theorem lookup_of_finds (consistent : state.topology.Consistent) {op : Op} {choice : op.Choice}
    {node : Endpoint} {pool : PoolRef}
    (finds : Exchange.finds? ⟨op, (state.perform op choice).1⟩ = some (node, pool)) :
    (state.perform op choice).2.topology.lookup node = some pool := by
  cases op with
  | lookup other =>
    simp only [perform] at finds ⊢
    -- A lookup finds what is registered, and changes nothing.
    cases found : state.topology.lookup other with
    | none => simp [Exchange.finds?, found] at finds
    | some known =>
      simp only [Exchange.finds?, found, Option.some.injEq, Prod.mk.injEq] at finds
      obtain ⟨rfl, rfl⟩ := finds
      exact found
  | register other =>
    simp only [perform, withTopology] at finds ⊢
    -- Who registers a node finds it under its key from then on.
    rcases registered : state.topology.register other with ⟨error | made, grown⟩
    · simp [Exchange.finds?, registered] at finds
    · simp only [Exchange.finds?, registered, Option.some.injEq, Prod.mk.injEq] at finds
      obtain ⟨rfl, rfl⟩ := finds
      exact (consistent.node?_of_register registered).2
  | assign slots other =>
    simp only [perform, withTopology] at finds ⊢
    -- Slots are given to a node that is registered in the same step.
    rcases Topology.assign_cases state.topology slots other with
      ⟨_, same⟩ | ⟨made, grown, registered, same⟩
    · simp [Exchange.finds?, same] at finds
    · simp only [Exchange.finds?, same, Option.some.injEq, Prod.mk.injEq] at finds
      obtain ⟨rfl, rfl⟩ := finds
      rw [same]
      exact (consistent.node?_of_register registered).2
  | _ => simp [Exchange.finds?] at finds

/-- An open table refuses nothing. -/
theorem isRefused_perform (accepting : state.topology.closed = false) (op : Op)
    (choice : op.Choice) : Exchange.isRefused ⟨op, (state.perform op choice).1⟩ = false := by
  cases op with
  | register node =>
    rcases Topology.register_cases state.topology node with
      ⟨shut, _⟩ | ⟨_, _, _, same⟩ | ⟨_, _, same⟩
    -- Only a closed table refuses, and this one is open.
    · simp [accepting] at shut
    · simp [perform, withTopology, same, Exchange.isRefused]
    · simp [perform, withTopology, same, Exchange.isRefused]
  | assign slots node =>
    rcases Topology.assign_cases state.topology slots node with ⟨shut, _⟩ | ⟨_, _, _, same⟩
    · simp [accepting] at shut
    · simp [perform, withTopology, same, Exchange.isRefused]
  | rebuild ranges => simp [perform, withTopology, Topology.rebuild, accepting, Exchange.isRefused]
  | _ => rfl

end ClientState

namespace Topology.Call

/-- The node whose pool a call hands out. -/
def node? : Call → Option Endpoint
  | getOrCreate node | assign _ node => some node
  | rebuild _ | reset | close => none

/-- What is granted to calls on an open table: none of their steps is refused. -/
def rules : Rules where
  allowed _ _ := True
  granted _ exchange := exchange.isRefused = false

/-- A call has handed out the pool that it has found or made for its node, if it is about one. -/
def Ended (call : Call) (past : Trace) (value : Except ClientError (Option PoolRef)) : Prop :=
  match call.node? with
  | some node => ∃ pool, value = .ok (some pool) ∧
      ∃ exchange ∈ past, exchange.finds? = some (node, pool)
  | none => value = .ok none

/-- A call that is not refused ends with the pool of its node. -/
theorem program_conducts (call : Call) : call.program.Conducts rules call.Ended [] := by
  cases call with
  | getOrCreate node =>
    refine ⟨trivial, fun known _ => ?_⟩
    cases known with
    -- The node was known, and its pool is handed out at once.
    | some pool => exact ⟨pool, rfl, _, List.mem_singleton_self _, rfl⟩
    | none =>
      -- The node was missing a step ago, and may have been registered since.
      refine ⟨trivial, fun made served => ?_⟩
      cases made with
      | error error => cases served
      | ok pool => exact ⟨pool, rfl, _, List.mem_append_right _ (List.mem_singleton_self _), rfl⟩
  | assign slots node =>
    refine ⟨trivial, fun made served => ?_⟩
    -- The table was open, so the slots were given to somebody.
    cases made with
    | error error => cases served
    | ok pool => exact ⟨pool, rfl, _, List.mem_singleton_self _, rfl⟩
  | rebuild ranges =>
    refine ⟨trivial, fun loaded served => ?_⟩
    cases loaded with
    | error error => cases served
    | ok done => rfl
  | reset => exact ⟨trivial, fun _ _ => rfl⟩
  | close => exact ⟨trivial, fun _ _ => rfl⟩

/-- A call takes two steps at most, and one more turn to come to its end. -/
theorem program_endsWithin (call : Call) : call.program.EndsWithin (fun _ => True) 3 := by
  cases call with
  | getOrCreate node =>
    intro state choice _
    -- Only a node that is missing needs the second step.
    cases found : (state.perform (.lookup node) choice).1 with
    | some pool => trivial
    | none => exact fun _ _ _ => trivial
  | assign slots node => exact fun _ _ _ => trivial
  | rebuild ranges => exact fun _ _ _ => trivial
  | reset => exact fun _ _ _ => trivial
  | close => exact fun _ _ _ => trivial

end Topology.Call

namespace Topology

variable {state : ClientState} {moves : List (Move (Except ClientError (Option PoolRef)))}

/-- Nothing closes the table or a pool, and the table has grown from an earlier one. -/
def Thriving (before : Topology) (system : System (Except ClientError (Option PoolRef))) : Prop :=
  (system.AllWithin fun op => op.closes = false) ∧ before.Grown system.state.topology

/-- Moves that start nothing that closes the table let it grow. -/
theorem Thriving.move {before : Topology} {system : System (Except ClientError (Option PoolRef))}
    (thriving : Thriving before system) {next : Move (Except ClientError (Option PoolRef))}
    (starts : ∀ program, next = .start program → program.Within fun op => op.closes = false) :
    Thriving before (system.move next) :=
  thriving.1.move (fun state => before.Grown state.topology) thriving.2 next starts
    (fun _ _ choice open_ grown => ClientState.grown_perform grown open_ choice) (fun _ _ => rfl) rfl

/-- In the course of any moves that start nothing that closes the table, it grows. -/
theorem Thriving.run {before : Topology} {system : System (Except ClientError (Option PoolRef))}
    (thriving : Thriving before system)
    (starts : ∀ program, .start program ∈ moves → program.Within fun op => op.closes = false) :
    Thriving before (system.run moves) :=
  thriving.1.run (fun state => before.Grown state.topology) thriving.2 starts
    (fun _ _ choice open_ grown => ClientState.grown_perform grown open_ choice) (fun _ _ => rfl) rfl

/-- A table that is open at first thrives under any moves that start nothing that closes it. -/
theorem thriving_run (accepting : state.topology.closed = false)
    (consistent : state.topology.Consistent)
    (starts : ∀ program, .start program ∈ moves → program.Within fun op => op.closes = false) :
    Thriving state.topology (({ state } : System _).run moves) :=
  -- No tasks are there at first, so none of them could close anything.
  Thriving.run ⟨by simp [System.AllWithin], .refl consistent accepting⟩ starts

/-- Between any two moments the table grows. -/
theorem grown_between {front back : List (Move (Except ClientError (Option PoolRef)))}
    (accepting : state.topology.closed = false) (consistent : state.topology.Consistent)
    (starts : ∀ program, .start program ∈ front ++ back →
      program.Within fun op => op.closes = false) :
    Grown (({ state } : System _).run front).state.topology
      (({ state } : System _).run (front ++ back)).state.topology := by
  obtain ⟨within, grown⟩ := thriving_run accepting consistent
    fun program member => starts program (List.mem_append_left back member)
  -- The table of the moment in between is where the growth begins.
  have later : Thriving (({ state } : System _).run front).state.topology
      ((({ state } : System _).run front).run back) :=
    Thriving.run ⟨within, .refl grown.consistent grown.accepting⟩
      fun program member => starts program (List.mem_append_right front member)
  rw [System.run_append]
  exact later.2

/-- The pool that a task has found for a node is still the one that is registered for the node. -/
theorem lookup_of_past (accepting : state.topology.closed = false)
    (consistent : state.topology.Consistent)
    (starts : ∀ program, .start program ∈ moves → program.Within fun op => op.closes = false)
    {index : Nat} {exchange : Exchange}
    (member : exchange ∈ ({ state } : System _).past index moves) {node : Endpoint} {pool : PoolRef}
    (finds : exchange.finds? = some (node, pool)) :
    (({ state } : System _).run moves).state.topology.lookup node = some pool := by
  -- What stands in the past was done at some moment of the moves.
  obtain ⟨before, behind, did⟩ := List.append_of_mem member
  obtain ⟨earlier, surroundings, later, rfl, -, turn⟩ := System.exists_moment did
  obtain ⟨op, next, holdings, -, rfl, stepped⟩ := System.turn_cases turn
  -- Right after the step the pool is registered, and from then on it stays so.
  have whole : earlier ++ .step index surroundings :: later =
      (earlier ++ [.step index surroundings]) ++ later := by simp
  obtain ⟨-, grown⟩ := thriving_run accepting consistent
    fun program inside => starts program (List.mem_append_left _ inside)
  have found := ClientState.lookup_of_finds grown.consistent finds
  rw [← stepped] at found
  rw [whole] at starts ⊢
  have since := grown_between accepting consistent starts
  refine lookup_of_nodes since.consistent.distinct since.kept ?_
  rw [System.run_append]
  exact found

/-- A call on an open table hands out the pool that is registered for its node by then and from then on,
and it comes to its end if it gets its turns. -/
theorem ended_of_starts (accepting : state.topology.closed = false)
    (consistent : state.topology.Consistent)
    (starts : ∀ program, .start program ∈ moves → program.Within fun op => op.closes = false)
    {index : Nat} {call : Call} {since : List (Move (Except ClientError (Option PoolRef)))}
    (started : ({ state } : System _).Starts index call.program moves since) :
    (∀ value, (({ state } : System _).run moves).outcome? index = some value →
      match call.node? with
      | some node => ∃ pool, value = .ok (some pool) ∧
          (({ state } : System _).run moves).state.topology.lookup node = some pool
      | none => value = .ok none) ∧
    (.cancel index ∉ since → 3 ≤ since.countP (·.isTurn index) →
      ∃ value, (({ state } : System _).run moves).outcome? index = some value) := by
  obtain ⟨front, rfl, rfl⟩ := started
  -- The table thrives when the call is started, and goes on thriving while it runs.
  have thriving := thriving_run accepting consistent
    fun program member => starts program (List.mem_append_left _ member)
  have kept : ∀ system next, next ∈ .start call.program :: since →
      Thriving state.topology system → Thriving state.topology (system.move next) :=
    fun system next member thriving => thriving.move fun program same =>
      starts program (List.mem_append_right front (same ▸ member))
  obtain ⟨last, here, abides⟩ := System.suits_of_start (Thriving state.topology)
    (fun past task => task.Abides Call.rules call.Ended past) kept
    (fun thriving turn abides => turn.abides (fun op choice _ =>
      ClientState.isRefused_perform thriving.2.accepting op choice) abides)
    thriving call.program_conducts
  constructor
  · intro value finished
    rw [System.outcome?_eq_some_iff] at finished
    obtain rfl := Option.some.inj (here.symm.trans finished)
    -- The pool that the call hands out is one that it has found.
    have ended : call.Ended _ value := abides
    unfold Call.Ended at ended
    split at ended
    · obtain ⟨pool, rfl, exchange, member, finds⟩ := ended
      exact ⟨pool, rfl, lookup_of_past accepting consistent starts member finds⟩
    · exact ended
  · exact System.finishes_of_start (Thriving state.topology) kept (fun _ _ => trivial) thriving
      call.program_endsWithin

/-- Any number of calls use an open table at the same time, to look nodes up, to register them or to give
them slots. Some calls may be cancelled, and other programs may do anything but close the table or a
pool.

Every call that ends has handed out the pool that is registered for its node, and ends if it gets its
turns, so calls for one node under any spelling hand out the same pool. A node that is known has exactly
one registered pool; it has had that pool ever since it was known, and no other pool was made for it. -/
theorem calls_share_pools (accepting : state.topology.closed = false)
    (consistent : state.topology.Consistent)
    (starts : ∀ program, .start program ∈ moves → program.Within fun op => op.closes = false) :
    let system : System (Except ClientError (Option PoolRef)) := { state }
    let now := (system.run moves).state.topology
    (∀ index (call : Call) since, system.Starts index call.program moves since →
      (∀ value, (system.run moves).outcome? index = some value →
        match call.node? with
        | some node => ∃ pool, value = .ok (some pool) ∧ now.lookup node = some pool
        | none => value = .ok none) ∧
      (.cancel index ∉ since → 3 ≤ since.countP (·.isTurn index) →
        ∃ value, (system.run moves).outcome? index = some value)) ∧
    (∀ one other (call again : Call) node spelling since later value answer,
      system.Starts one call.program moves since → system.Starts other again.program moves later →
      call.node? = some node → again.node? = some spelling → node.sameNode spelling = true →
      (system.run moves).outcome? one = some value →
      (system.run moves).outcome? other = some answer → value = answer) ∧
    (∀ node pool, now.lookup node = some pool →
      now.knownPools.filter (fun known => known.endpoint.sameNode node) = [pool]) ∧
    (∀ front back, moves = front ++ back → ∀ node pool,
      (system.run front).state.topology.lookup node = some pool → now.lookup node = some pool) ∧
    ∀ id found, state.topology.pools.size ≤ id → now.pool? id = some found →
      now.lookup found.endpoint = some ⟨id, found.endpoint⟩ := by
  intro system now
  -- All five parts are about the table after all moves, which has grown from the first one.
  obtain ⟨-, grown⟩ := thriving_run accepting consistent starts
  refine ⟨fun index call since started => ended_of_starts accepting consistent starts started,
    fun one other call again node spelling since later value answer first second about same alike
      finished done => ?_, fun node pool found => knownPools_filter grown.consistent found,
    fun front back same node pool found => ?_, fun id found => grown.fresh id found⟩
  · obtain ⟨ended, -⟩ := ended_of_starts accepting consistent starts first
    obtain ⟨closed, -⟩ := ended_of_starts accepting consistent starts second
    have ended := ended value finished
    have closed := closed answer done
    rw [about] at ended
    rw [same] at closed
    obtain ⟨pool, rfl, here⟩ := ended
    obtain ⟨twin, rfl, there⟩ := closed
    -- Both spellings have one key, and one pool is registered under it.
    rw [lookup, Endpoint.sameNode_iff.1 alike] at here
    rw [Option.some.inj (here.symm.trans there)]
  · subst same
    have since := grown_between accepting consistent starts
    exact lookup_of_nodes since.consistent.distinct since.kept found

/-- Two calls look the same node up under two spellings and both miss it; the second one registers it
first. -/
theorem calls_share_pools_race :
    let surroundings : (op : Op) → op.Choice :=
      Op.surroundings (fun _ => .ok ()) fun _ _ => .ok .null
    let moves : List (Move (Except ClientError (Option PoolRef))) :=
      [.start (Call.getOrCreate ⟨"localhost", 7000⟩).program,
        .start (Call.getOrCreate ⟨"127.0.0.1", 7000⟩).program, .step 0 surroundings,
        .step 1 surroundings, .step 1 surroundings, .step 0 surroundings, .step 0 surroundings,
        .step 1 surroundings]
    let system : System (Except ClientError (Option PoolRef)) := { state := .initial {} }
    ∃ value, (system.run moves).outcome? 0 = some value ∧
      (system.run moves).outcome? 1 = some value := by
  -- Neither of the calls closes anything, whatever their lookups find.
  intro surroundings moves system
  have within : ∀ node, (Call.getOrCreate node).program.Within fun op => op.closes = false := by
    intro node
    refine ⟨rfl, fun known => ?_⟩
    cases known with
    | some pool => trivial
    | none => exact ⟨rfl, fun _ => trivial⟩
  obtain ⟨ended, shared, -⟩ := @calls_share_pools (.initial {}) moves rfl
    (consistent_new {}) (by simp [moves, within])
  have first : system.Starts 0 (Call.getOrCreate ⟨"localhost", 7000⟩).program moves moves.tail :=
    ⟨[], rfl, rfl⟩
  have second : system.Starts 1 (Call.getOrCreate ⟨"127.0.0.1", 7000⟩).program moves
      moves.tail.tail := ⟨[_], rfl, rfl⟩
  -- Both calls get the three turns that they need.
  obtain ⟨value, finished⟩ := (ended _ _ _ first).2 (by simp [moves]) (by simp [moves, Move.isTurn])
  obtain ⟨answer, done⟩ := (ended _ _ _ second).2 (by simp [moves]) (by simp [moves, Move.isTurn])
  obtain rfl := shared _ _ _ _ _ _ _ _ _ _ first second rfl rfl (by decide) finished done
  exact ⟨value, finished, done⟩

end Topology

end RedisCluster
