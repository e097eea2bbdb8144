import RedisCluster.Proofs.Client.Jobs
import RedisCluster.Proofs.Topology.Growth
import RedisCluster.Proofs.Topology.Shut

/-! The nodes that a client knows: whatever it is asked to do, it forgets none of them before it is
closed. -/

namespace RedisCluster

namespace Topology

variable {topology : Topology}

/-- A node is known, under some spelling of its host. -/
def Knows (topology : Topology) (node : Endpoint) : Prop :=
  ∃ pool ∈ topology.knownPools, pool.endpoint.sameNode node = true

/-- Where no node is forgotten, those that were known are known. -/
theorem Knows.mono {later : Topology} {node : Endpoint} (known : topology.Knows node)
    (kept : topology.nodes ⊆ later.nodes) : later.Knows node := by
  obtain ⟨pool, member, same⟩ := known
  exact ⟨pool, List.map_subset _ kept member, same⟩

/-- A node that was registered is known. -/
theorem knows_of_register (consistent : topology.Consistent) {node : Endpoint} {pool : PoolRef}
    {grown : Topology} (registered : topology.register node = (.ok pool, grown)) :
    grown.Knows node := by
  -- Registering puts the node under its key, or finds it there under another spelling.
  obtain ⟨key, present⟩ := consistent.node?_of_register registered
  exact ⟨pool, List.mem_map.2 ⟨_, mem_of_node? present, rfl⟩, Endpoint.sameNode_iff.2 key⟩

/-- A node that slots were given to is known. -/
theorem knows_of_assign (consistent : topology.Consistent) {slots : List Nat} {node : Endpoint}
    {pool : PoolRef} (given : (topology.assign slots node).1 = .ok pool) :
    (topology.assign slots node).2.Knows node := by
  rcases assign_cases topology slots node with ⟨_, same⟩ | ⟨found, grown, registered, same⟩
  · simp [same] at given
  · -- Writing the slots makes no difference to the nodes.
    have known := knows_of_register consistent registered
    rw [same]
    exact known

/-- Slots are given away by an open table only. -/
theorem accepting_of_assign {slots : List Nat} {node : Endpoint} {pool : PoolRef}
    (given : (topology.assign slots node).1 = .ok pool) : topology.closed = false := by
  cases shut : topology.closed with
  -- A shut table registers nobody, and so gives no slot away.
  | false => rfl
  | true => simp [assign, register, shut] at given

/-- A layout is loaded into an open table only. -/
theorem accepting_of_rebuild {ranges : List SlotRange}
    (loaded : (topology.rebuild ranges).1 = .ok ()) : topology.closed = false := by
  cases shut : topology.closed with
  | false => rfl
  | true => simp [rebuild, shut] at loaded

end Topology

namespace ClientState

/-- A routine step forgets no node unless it closes the client. -/
theorem nodes_perform (state : ClientState) {op : Op} (routine : op.isRoutine = true)
    (choice : op.Choice) : (state.perform op choice).2.topology.closed = true ∨
      state.topology.nodes ⊆ (state.perform op choice).2.topology.nodes := by
  -- Most operations leave the nodes alone. Three may add some, and closing is the exception allowed
  -- for.
  cases op, choice using Op.steady_cases with
  | steady op choice steady =>
    exact .inr ((steady_perform steady state choice).nodes ▸ List.Subset.refl _)
  | register node => exact .inr (Topology.nodes_register _ _)
  | assign slots node => exact .inr (Topology.nodes_assign _ _ _)
  | rebuild ranges => exact .inr (Topology.nodes_rebuild _ _)
  | close => exact .inl state.topology.closed_close
  -- What starts over or closes single pools belongs to the start of a client.
  | reset => simp [Op.isRoutine] at routine
  | closePool pool => simp [Op.isRoutine] at routine

end ClientState

namespace Client

variable {client : Client} {state : ClientState} {front back : List (Move Outcome)}

/-- No job makes a client forget a node before it is closed. -/
theorem nodes_run
    (jobs : ∀ program, .start program ∈ front ++ back → ∃ job : Job, program = job.program client)
    (consistent : state.topology.Consistent) :
    (({ state } : System Outcome).run (front ++ back)).state.topology.closed = true ∨
      (({ state } : System Outcome).run front).state.topology.nodes ⊆
        (({ state } : System Outcome).run (front ++ back)).state.topology.nodes := by
  -- From the moment between front and back on, the nodes of that moment are kept or the client is shut.
  have before := run_consistent (fun program member =>
    jobs program (List.mem_append_left back member)) consistent
  refine (run_keeps (fun later => later.topology.Consistent ∧
    (later.topology.closed = true ∨ (({ state } : System Outcome).run front).state.topology.nodes ⊆
      later.topology.nodes)) front jobs ?_ ⟨before, .inr (List.Subset.refl _)⟩).2
  intro later op choice routine ⟨consistent, kept⟩
  refine ⟨ClientState.consistent_perform consistent
    (fun pool same => by simp [same, Op.isRoutine] at routine) choice, ?_⟩
  rcases kept with shut | kept
  · -- A client that is closed stays closed.
    have shut : later.Shut := ⟨.of_consistent consistent, shut⟩
    exact .inl (shut.perform op choice).closed
  -- The step itself forgets nobody, so what was kept up to now is still kept.
  · exact (later.nodes_perform routine choice).imp_right (List.Subset.trans kept)

/-- A node that is known stays known until the client is closed. -/
theorem knows_run
    (jobs : ∀ program, .start program ∈ front ++ back → ∃ job : Job, program = job.program client)
    (consistent : state.topology.Consistent) {node : Endpoint}
    (known : (({ state } : System Outcome).run front).state.topology.Knows node) :
    (({ state } : System Outcome).run (front ++ back)).state.topology.closed = true ∨
      (({ state } : System Outcome).run (front ++ back)).state.topology.Knows node :=
  -- Where the nodes are kept, whoever was known among them is known.
  (nodes_run jobs consistent).imp_right known.mono

end Client

end RedisCluster
