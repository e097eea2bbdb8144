import RedisCluster.Proofs.Program.History
import RedisCluster.Proofs.Topology.Steady

/-! Where pools come from: every pool was made for a node that some step has registered, and whatever
pool is handed out was made and stays where it is. -/

namespace RedisCluster

/-- The nodes that a step may register. -/
def Op.registers : Op → List Endpoint
  | .register node | .assign _ node => [node]
  | .rebuild ranges => ranges.map (·.master)
  | _ => []

/-- The pools that a step hands out. -/
def Exchange.handed : Exchange → List PoolRef
  | ⟨.owner _, pool⟩ | ⟨.lookup _, pool⟩ => pool.toList
  | ⟨.register _, .ok pool⟩ | ⟨.assign _ _, .ok pool⟩ => [pool]
  | ⟨.knownPools, pools⟩ => pools
  | _ => []

/-- The pools that were handed out in the course of a trace. -/
def Trace.handed (trace : Trace) : List PoolRef :=
  trace.flatMap Exchange.handed

@[simp] theorem Trace.handed_append (front back : Trace) :
    handed (front ++ back) = handed front ++ handed back :=
  List.flatMap_append

namespace Topology

/-- Every pool that the table refers to was made. -/
structure Grounded (topology : Topology) : Prop where
  nodes : ∀ entry ∈ topology.nodes, topology.Made entry.2
  owners : ∀ slot pool, topology.owner slot = some pool → topology.Made pool

/-- A consistent table is grounded. -/
theorem Grounded.of_consistent {topology : Topology} (consistent : topology.Consistent) :
    topology.Grounded := by
  refine ⟨fun entry member => ?_, fun slot pool owns =>
    consistent.made_of_node? (consistent.owned slot pool owns)⟩
  -- A registered pool is there, and was made for its node.
  obtain ⟨pool, found, same, -⟩ := consistent.live entry member
  exact ⟨pool, found, same⟩

/-- A later table has all pools of an earlier one, refers to pools that were made, and has new pools for
named nodes only. -/
structure Descends (named : List Endpoint) (before after : Topology) : Prop where
  made : ∀ pool, before.Made pool → after.Made pool
  grounded : before.Grounded → after.Grounded
  sources : ∀ id pool, after.pool? id = some pool →
    (∃ old, before.pool? id = some old ∧ old.endpoint = pool.endpoint) ∨ pool.endpoint ∈ named

namespace Descends

variable {named more : List Endpoint} {topology before middle after : Topology}

/-- A table descends from itself. -/
theorem refl (topology : Topology) : Descends named topology topology :=
  ⟨fun _ made => made, fun grounded => grounded, fun _ pool found => .inl ⟨pool, found, rfl⟩⟩

/-- What is named once may be named again. -/
theorem mono (descends : Descends named before after) (less : named ⊆ more) :
    Descends more before after :=
  ⟨descends.made, descends.grounded, fun id pool found =>
    (descends.sources id pool found).imp_right fun member => less member⟩

/-- Tables descend from each other in a row. -/
theorem trans (first : Descends named before middle) (second : Descends named middle after) :
    Descends named before after := by
  refine ⟨fun pool made => second.made pool (first.made pool made),
    fun grounded => second.grounded (first.grounded grounded), fun id pool found => ?_⟩
  rcases second.sources id pool found with ⟨old, there, same⟩ | fresh
  · -- A pool that was there in between is traced further back.
    rcases first.sources id old there with ⟨older, here, alike⟩ | fresh
    · exact .inl ⟨older, here, alike.trans same⟩
    -- It was made in between, for a node that was named.
    · exact .inr (same ▸ fresh)
  · exact .inr fresh

/-- A change of pools that leaves them to their nodes leaves everything else as it was. -/
theorem of_pools (nodes : after.nodes = before.nodes) (slots : after.slots = before.slots)
    (endpoints : ∀ id, (after.pool? id).map Pool.endpoint = (before.pool? id).map Pool.endpoint) :
    Descends named before after := by
  have made : ∀ pool, before.Made pool → after.Made pool := by
    -- A pool that was made is there still, and its node is the same.
    rintro pool ⟨found, present, same⟩
    have kept := endpoints pool.id
    rw [present, Option.map_some, Option.map_eq_some_iff] at kept
    obtain ⟨current, there, alike⟩ := kept
    exact ⟨current, there, alike.trans same⟩
  refine ⟨made, fun grounded => ⟨fun entry member => ?_, fun slot pool owns => ?_⟩,
    fun id pool found => .inl ?_⟩
  · exact made _ (grounded.nodes entry (nodes ▸ member))
  · rw [owner, slots] at owns
    exact made _ (grounded.owners slot pool owns)
  -- Every pool that is there now was there before.
  · have kept := endpoints id
    rw [found, Option.map_some, eq_comm, Option.map_eq_some_iff] at kept
    exact kept

/-- A registered node has a new pool or an old one. -/
theorem register (topology : Topology) (node : Endpoint) :
    Descends [node] topology (topology.register node).2 ∧
      ∀ pool, topology.Grounded → (topology.register node).1 = .ok pool →
        (topology.register node).2.Made pool := by
  -- Either the table stays as it is, or one pool and one entry for it are added.
  have kept : ∀ pool, topology.Made pool → (topology.register node).2.Made pool :=
    fun pool made => made.register node
  rcases register_cases topology node with ⟨_, same⟩ | ⟨_, known, found, same⟩ | ⟨_, _, same⟩ <;>
    rw [same] at kept ⊢
  · exact ⟨.refl topology, by simp⟩
  -- The node was known, and its pool is handed out.
  · refine ⟨.refl topology, fun pool grounded answered => ?_⟩
    obtain rfl := Except.ok.inj answered
    exact grounded.nodes _ (mem_of_node? found)
  · -- The new pool is for the node, and its entry is the only new one.
    have fresh : (topology.enroll node).Made ⟨topology.pools.size, node⟩ :=
      ⟨_, by rw [pool?_enroll, if_pos rfl], rfl⟩
    refine ⟨⟨kept, fun grounded => ⟨fun entry member => ?_, fun slot pool owns => ?_⟩,
      fun id pool found => ?_⟩, fun pool _ answered => Except.ok.inj answered ▸ fresh⟩
    -- An entry is an old one, or that of the new node.
    · rcases List.mem_append.1 member with old | new
      · exact kept _ (grounded.nodes entry old)
      · rw [List.mem_singleton.1 new]
        exact fresh
    · exact kept _ (grounded.owners slot pool owns)
    · rw [pool?_enroll] at found
      split at found
      · obtain rfl := Option.some.inj found
        exact .inr (List.mem_singleton_self node)
      · exact .inl ⟨pool, found, rfl⟩

/-- Slots are given to a pool that was made. -/
theorem assign (topology : Topology) (slots : List Nat) (node : Endpoint) :
    Descends [node] topology (topology.assign slots node).2 ∧
      ∀ pool, topology.Grounded → (topology.assign slots node).1 = .ok pool →
        (topology.assign slots node).2.Made pool := by
  obtain ⟨descends, given⟩ := register topology node
  rcases assign_cases topology slots node with ⟨_, same⟩ | ⟨pool, grown, registered, same⟩
  -- A closed table gives nothing away.
  · rw [same]
    exact ⟨.refl topology, by simp⟩
  · rw [registered] at descends given
    rw [same]
    have made : topology.Grounded → grown.Made pool := fun grounded => given pool grounded rfl
    refine ⟨⟨descends.made, fun grounded => ⟨(descends.grounded grounded).nodes,
      fun slot owner owns => ?_⟩, descends.sources⟩, fun other grounded answered =>
        Except.ok.inj answered ▸ made grounded⟩
    -- A slot has its old owner or the pool that it was given to.
    rw [owner_point] at owns
    split at owns
    · exact Option.some.inj owns ▸ made grounded
    · exact (descends.grounded grounded).owners slot owner owns

/-- A table without owners refers to fewer pools. -/
theorem clearSlots (topology : Topology) : Descends named topology topology.clearSlots :=
  ⟨fun _ made => made, fun grounded => ⟨grounded.nodes, fun slot pool owns => by simp at owns⟩,
    fun _ pool found => .inl ⟨pool, found, rfl⟩⟩

/-- A layout that is loaded brings in its masters. -/
theorem rebuild (topology : Topology) (ranges : List SlotRange) :
    Descends (ranges.map (·.master)) topology (topology.rebuild ranges).2 := by
  -- Every range is placed into the table that the ones before it have left.
  have places : ∀ (ranges : List SlotRange) (topology : Topology),
      Descends (ranges.map (·.master)) topology (ranges.foldl place topology) := by
    intro ranges
    induction ranges with
    | nil => exact .refl
    | cons range rest ih =>
      exact fun topology => ((assign topology range.slots range.master).1.mono (by simp)).trans
        -- The masters of the other ranges come after the first one.
        ((ih _).mono (by simp))
  unfold Topology.rebuild
  split
  · exact .refl topology
  · exact (clearSlots topology).trans (places ranges topology.clearSlots)

/-- A reset refers to no pools any more, and closed pools are still those of their nodes. -/
theorem reset (topology : Topology) : Descends named topology topology.reset := by
  refine ⟨fun _ made => made.reset, fun _ => ⟨?_, fun slot pool owns => ?_⟩,
    fun id pool found => .inl ?_⟩
  -- There are no nodes left.
  · exact fun entry member => absurd member List.not_mem_nil
  · have nobody : topology.reset.owner slot = none := owner_clearSlots topology slot
    rw [nobody] at owns
    cases owns
  · -- A pool that is closed is still the pool of its node.
    rw [pool?_reset, Option.map_eq_some_iff] at found
    obtain ⟨old, there, rfl⟩ := found
    refine ⟨old, there, ?_⟩
    split
    · exact (Pool.close_endpoint old).symm
    · rfl

/-- A table that is closed descends from the open one. -/
theorem close (topology : Topology) : Descends named topology topology.close.2 := by
  unfold Topology.close
  -- The table was closed already.
  split
  · exact .refl topology
  · have reset : Descends named topology topology.reset := reset topology
    exact ⟨reset.made, fun grounded => ⟨(reset.grounded grounded).nodes,
      (reset.grounded grounded).owners⟩, reset.sources⟩

end Descends

end Topology

namespace ClientState

open RedisCluster.Topology

/-- A step brings in the nodes that it registers, and no others. -/
theorem descends_perform (state : ClientState) (op : Op) (choice : op.Choice) :
    Descends op.registers state.topology (state.perform op choice).2.topology := by
  cases op, choice using Op.steady_cases with
  | steady op choice steady =>
    have same := steady_perform steady state choice
    refine .of_pools same.nodes same.slots fun id => ?_
    -- Pools with the same face belong to the same node.
    have faces := congrArg (Option.map Prod.fst) (same.faces id)
    simpa only [Option.map_map, Function.comp_def, Pool.face] using faces
  | register node => exact (Descends.register state.topology node).1
  | assign slots node => exact (Descends.assign state.topology slots node).1
  | rebuild ranges => exact Descends.rebuild state.topology ranges
  | reset => exact Descends.reset state.topology
  | close => exact Descends.close state.topology
  | closePool pool =>
    refine .of_pools rfl rfl fun id => ?_
    -- The pool that is closed keeps its node, and the others are not touched.
    simp only [perform, changePool, pool?_updatePool]
    split
    · simp [Option.map_map, Function.comp_def]
    · rfl

/-- Whatever pool a step hands out was made. -/
theorem made_of_handed {state : ClientState} (grounded : state.topology.Grounded) {op : Op}
    {choice : op.Choice} {pool : PoolRef}
    (member : pool ∈ Exchange.handed ⟨op, (state.perform op choice).1⟩) :
    (state.perform op choice).2.topology.Made pool := by
  cases op with
  | owner slot => exact grounded.owners slot pool (Option.mem_toList.1 member)
  | lookup node =>
    exact grounded.nodes _ (mem_of_node? (Option.mem_toList.1 member))
  | register node =>
    obtain ⟨-, given⟩ := Descends.register state.topology node
    simp only [perform, withTopology] at member ⊢
    rcases registered : state.topology.register node with ⟨error | made, grown⟩
    -- An error hands out nobody.
    · simp [registered, Exchange.handed] at member
    · simp only [registered, Exchange.handed, List.mem_singleton] at member given
      exact given pool grounded (member ▸ rfl)
  | assign slots node =>
    obtain ⟨-, given⟩ := Descends.assign state.topology slots node
    simp only [perform, withTopology] at member ⊢
    rcases assigned : state.topology.assign slots node with ⟨error | made, grown⟩
    · simp [assigned, Exchange.handed] at member
    · simp only [assigned, Exchange.handed, List.mem_singleton] at member given
      exact given pool grounded (member ▸ rfl)
  | knownPools =>
    -- The known pools come in some order.
    have known : pool ∈ state.topology.knownPools := by
      simp only [perform, Exchange.handed] at member
      split at member
      · rename_i rearranged
        exact (List.isPerm_iff.1 rearranged).mem_iff.1 member
      · exact member
    obtain ⟨entry, present, rfl⟩ := List.mem_map.1 known
    exact grounded.nodes entry present
  -- No other step hands out pools.
  | _ => simp [Exchange.handed] at member

/-- Who gives back what it holds brings in no nodes. -/
theorem descends_giveBack (holdings : Holdings) (state : ClientState) :
    Descends [] state.topology (holdings.giveBack state).topology :=
  -- What a task gives back are places and its rediscovery, by steps that register nobody.
  @Holdings.giveBack_keeps (fun later => Descends [] state.topology later.topology)
    (fun later pool ticket first => first.trans (later.descends_perform (.leave pool ticket) ()))
    (fun later first => first.trans (later.descends_perform .endRediscovery ())) holdings state
    (Descends.refl state.topology)

end ClientState

namespace System

variable {α : Type}

/-- All that a table refers to and all that was handed out by it was made. -/
structure Rooted (system : System α) (past : Nat → Trace) : Prop where
  grounded : system.state.topology.Grounded
  handed : ∀ index, ∀ pool ∈ (past index).handed, system.state.topology.Made pool

/-- What was made before a move is there after it, and so is what the move hands out. -/
theorem Rooted.move {system : System α} {past : Nat → Trace} (rooted : system.Rooted past)
    (next : Move α) : (system.move next).Rooted (system.pastAfter past next) := by
  rcases system.move_cases next with
    ⟨_, -, pasts, moved⟩ | ⟨turn, before, deed, after, last, -, taken, pasts, moved⟩ |
    ⟨pasts, moved⟩ <;> rw [pasts, moved]
  -- A task that starts has done nothing yet.
  · exact ⟨rooted.grounded, rooted.handed⟩
  · cases taken with
    | @took op _ _ choice =>
      have descends := system.state.descends_perform op choice
      refine ⟨descends.grounded rooted.grounded, fun index pool member => ?_⟩
      rw [extend] at member
      split at member
      · rw [Trace.handed_append] at member
        rcases List.mem_append.1 member with old | new
        · exact descends.made pool (rooted.handed index pool old)
        · -- This pool was handed out just now.
          refine ClientState.made_of_handed rooted.grounded ?_
          simpa [Trace.handed] using new
      · exact descends.made pool (rooted.handed index pool member)
    | ended =>
      -- Nothing was done at the end of a program.
      rw [extend_none]
      exact ⟨rooted.grounded, rooted.handed⟩
    | @gaveUp _ holdings =>
      rw [extend_none]
      have descends := ClientState.descends_giveBack holdings system.state
      exact ⟨descends.grounded rooted.grounded, fun index pool member =>
        descends.made pool (rooted.handed index pool member)⟩
  · exact rooted

/-- Whatever programs there are, every pool that any of them was ever handed out was made and is still
there. -/
theorem rooted_run {state : ClientState} (grounded : state.topology.Grounded)
    (moves : List (Move α)) :
    (({ state } : System α).run moves).Rooted fun index => ({ state } : System α).past index moves :=
  run_past_induction (fun system past => system.Rooted past) { state } (fun _ => [])
    -- A new system has handed out no pool.
    ⟨grounded, fun _ _ member => absurd member List.not_mem_nil⟩
    fun _ _ next _ rooted => rooted.move next

end System

end RedisCluster
