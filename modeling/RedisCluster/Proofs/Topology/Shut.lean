import RedisCluster.Proofs.Pool.Renewal

/-! Clients that are closed: no step opens them again, and none of them leads anywhere. -/

namespace RedisCluster

namespace Topology

/-- Pools that are not registered are closed, and a closed table has neither nodes nor owners. -/
structure Tidy (topology : Topology) : Prop where
  retired : ∀ id pool, topology.pool? id = some pool →
    (∃ entry ∈ topology.nodes, entry.2.id = id) ∨ pool.closed = true
  emptied : topology.closed = true → topology.nodes = []
  ownerless : topology.closed = true → ∀ slot, topology.owner slot = none

namespace Tidy

variable {topology after : Topology}

/-- A consistent table is tidy. -/
theorem of_consistent (consistent : topology.Consistent) : topology.Tidy where
  retired := consistent.retired
  emptied := consistent.emptied
  ownerless shut slot := by
    -- An owner would be registered, and nothing is.
    cases owns : topology.owner slot with
    | none => rfl
    | some pool =>
      have registered := consistent.owned slot pool owns
      simp [node?, consistent.emptied shut] at registered

/-- An open table is tidy if its unregistered pools are closed. -/
theorem of_open (accepting : topology.closed = false)
    (retired : ∀ id pool, topology.pool? id = some pool →
      (∃ entry ∈ topology.nodes, entry.2.id = id) ∨ pool.closed = true) : topology.Tidy where
  retired := retired
  emptied shut := by simp [accepting] at shut
  ownerless shut := by simp [accepting] at shut

/-- Steps inside pools leave a table tidy, because no pool is opened by them. -/
theorem updatePool (tidy : topology.Tidy) (id : Nat) {change : Pool → Pool}
    (evolves : ∀ pool, topology.pool? id = some pool →
      ∃ mover, pool.Evolves mover (change pool)) : (topology.updatePool id change).Tidy where
  retired other pool found := by
    rw [pool?_updatePool] at found
    split at found
    · -- The pool was closed before the step and stays so.
      rename_i same
      obtain ⟨old, there, rfl⟩ := Option.map_eq_some_iff.1 found
      obtain ⟨_, evolved⟩ := evolves old (same ▸ there)
      -- A closed pool stays closed, whoever moves in it.
      exact (tidy.retired other old there).imp_right evolved.closed
    · exact tidy.retired other pool found
  emptied := tidy.emptied
  ownerless := tidy.ownerless

/-- A node that is registered leaves a table tidy. -/
theorem register (tidy : topology.Tidy) (endpoint : Endpoint) :
    (topology.register endpoint).2.Tidy := by
  rcases register_cases topology endpoint with ⟨_, same⟩ | ⟨_, _, _, same⟩ | ⟨accepting, _, grown⟩
  · -- A closed table registers nothing, and a known node is there already.
    rwa [same]
  · rwa [same]
  · rw [grown]
    refine of_open accepting fun id pool found => ?_
    rw [pool?_enroll] at found
    split at found
    · -- The new pool is registered with its node.
      rename_i last
      exact .inl ⟨_, List.mem_append_right _ (List.mem_singleton_self _), last.symm⟩
    · exact (tidy.retired id pool found).imp_left fun ⟨entry, member, same⟩ =>
        ⟨entry, List.mem_append_left _ member, same⟩

/-- Registering a node opens no table and closes none. -/
theorem closed_register (topology : Topology) (endpoint : Endpoint) :
    (topology.register endpoint).2.closed = topology.closed := by
  -- A table that takes the node in was open and stays so.
  rcases register_cases topology endpoint with ⟨_, same⟩ | ⟨_, _, _, same⟩ | ⟨_, _, same⟩
  · rw [same]
  · rw [same]
  · rw [same]
    rfl

/-- Giving slots away opens no table and closes none. -/
theorem closed_assign (topology : Topology) (slots : List Nat) (endpoint : Endpoint) :
    (topology.assign slots endpoint).2.closed = topology.closed := by
  have still := closed_register topology endpoint
  -- A closed table is left as it is, and in an open one only slots change.
  rcases assign_cases topology slots endpoint with ⟨_, same⟩ | ⟨pool, grown, made, same⟩
  · rw [same]
  · rw [made] at still
    rw [same]
    exact still

/-- Slots that are given away leave a table tidy. -/
theorem assign (tidy : topology.Tidy) (slots : List Nat) (endpoint : Endpoint) :
    (topology.assign slots endpoint).2.Tidy ∧
      (topology.assign slots endpoint).2.closed = topology.closed := by
  refine ⟨?_, closed_assign topology slots endpoint⟩
  have registered := tidy.register endpoint
  have still := closed_register topology endpoint
  rcases assign_cases topology slots endpoint with ⟨_, same⟩ | ⟨pool, grown, made, same⟩
  · rwa [same]
  · rw [made] at registered still
    rw [same]
    refine of_open ?_ registered.retired
    -- Only an open table registers nodes.
    rcases register_cases topology endpoint with ⟨_, refused⟩ | ⟨accepting, _⟩ | ⟨accepting, _⟩
    · rw [refused] at made
      cases made
    · exact still.trans accepting
    · exact still.trans accepting

/-- A layout that is loaded leaves a table tidy. -/
theorem rebuild (tidy : topology.Tidy) (ranges : List SlotRange) :
    (topology.rebuild ranges).2.Tidy ∧
      (topology.rebuild ranges).2.closed = topology.closed := by
  -- Without owners a table is as tidy as it was with them.
  have cleared : topology.clearSlots.Tidy :=
    ⟨tidy.retired, tidy.emptied, fun _ => owner_clearSlots topology⟩
  refine rebuild_induction (motive := fun table => table.Tidy ∧ table.closed = topology.closed)
    ranges ⟨tidy, rfl⟩ ⟨cleared, rfl⟩ fun table slots endpoint holds => ?_
  -- Each range of the layout is an assignment.
  obtain ⟨assigned, still⟩ := Tidy.assign holds.1 slots endpoint
  exact ⟨assigned, still.trans holds.2⟩

/-- A reset closes the pools that it takes out of the table. -/
theorem reset (tidy : topology.Tidy) : topology.reset.Tidy where
  retired id pool found := by
    rw [pool?_reset] at found
    obtain ⟨before, was, rfl⟩ := Option.map_eq_some_iff.1 found
    right
    split
    · -- What was registered is closed by the reset, and all else was closed before.
      exact Pool.close_closed before
    · rename_i unregistered
      exact (tidy.retired id before was).resolve_left unregistered
  emptied _ := rfl
  ownerless _ := owner_clearSlots topology

/-- Closing leaves a tidy table behind. -/
theorem close (tidy : topology.Tidy) : topology.close.2.Tidy := by
  unfold Topology.close
  split
  -- What is closed already was tidy.
  · exact tidy
  · have reset := tidy.reset
    exact ⟨reset.retired, fun _ => rfl, fun _ => owner_clearSlots topology⟩

end Tidy

/-- Closing a table closes it, whether it was open or not. -/
theorem closed_close (topology : Topology) : topology.close.2.closed = true := by
  unfold Topology.close
  split
  · assumption
  · rfl

end Topology

namespace ClientState

variable {state : ClientState}

/-- A step that one pool answers leaves the table tidy. -/
theorem tidy_onPool {α : Type} (tidy : state.topology.Tidy) (ref : PoolRef) (missing : α)
    {step : Pool → α × Pool} (evolves : ∀ pool : Pool, ∃ mover, pool.Evolves mover (step pool).2) :
    (state.onPool ref missing step).2.topology.Tidy := by
  unfold onPool
  split
  · -- Nobody is answered by a pool that is not there.
    exact tidy
  · rename_i pool found
    refine tidy.updatePool _ fun known located => ?_
    rw [found, Option.some.injEq] at located
    exact located ▸ evolves pool

/-- Noting whether a connection may be reused leaves the table tidy. -/
theorem tidy_mark (tidy : state.topology.Tidy) (lease : Lease) (broken : Bool) :
    (state.mark lease broken).topology.Tidy := by
  cases lease with
  | pooled ref ticket => exact tidy.updatePool _ fun pool _ => ⟨_, pool.evolves_mark ticket broken⟩
  -- A direct connection is in no pool, and nothing is noted.
  | direct node number => exact tidy

/-- Whatever step is taken, the table stays tidy. -/
theorem tidy_perform (tidy : state.topology.Tidy) (op : Op) (choice : op.Choice) :
    (state.perform op choice).2.topology.Tidy := by
  cases op with
  | register node => exact tidy.register node
  | assign slots node => exact (tidy.assign slots node).1
  | rebuild ranges => exact (tidy.rebuild ranges).1
  | reset => exact tidy.reset
  | close => exact tidy.close
  | enter ref => exact tidy_onPool tidy _ _ fun pool => ⟨_, pool.evolves_enter⟩
  | awaitPermit ref ticket =>
    exact tidy_onPool tidy _ _ fun pool => ⟨_, pool.evolves_awaitPermit ticket⟩
  | takeIdle ref ticket => exact tidy_onPool tidy _ _ fun pool => ⟨_, pool.evolves_takeIdle ticket⟩
  | connect ref ticket => exact tidy.updatePool _ fun pool _ => ⟨_, pool.evolves_opened ticket choice⟩
  | leave ref ticket => exact tidy.updatePool _ fun pool _ => ⟨_, pool.evolves_leave ticket⟩
  | closePool ref => exact tidy.updatePool _ fun pool _ => ⟨0, pool.evolves_close 0⟩
  | send lease request => exact tidy_mark tidy _ _
  | answer lease request => exact tidy_mark tidy _ _
  -- Neither the dial nor any remaining step touches the table.
  | dial node => cases choice <;> exact tidy
  | _ => exact tidy

/-- The client is closed, and nothing is left of what it knew. -/
structure Shut (state : ClientState) : Prop where
  tidy : state.topology.Tidy
  closed : state.topology.closed = true

/-- No step opens a closed client again. -/
theorem Shut.perform (shut : state.Shut) (op : Op) (choice : op.Choice) :
    (state.perform op choice).2.Shut := by
  refine ⟨tidy_perform shut.tidy op choice, ?_⟩
  have closed := shut.closed
  cases op with
  -- Only the steps of the table itself and those inside a pool need a word.
  | register node => exact (Topology.Tidy.closed_register _ node).trans closed
  | assign slots node => exact (shut.tidy.assign slots node).2.trans closed
  | rebuild ranges => exact (shut.tidy.rebuild ranges).2.trans closed
  | close => simp [ClientState.perform, withTopology, Topology.close, closed]
  | enter ref =>
    simp only [ClientState.perform, onPool]
    split <;> exact closed
  | awaitPermit ref ticket =>
    simp only [ClientState.perform, onPool]
    split <;> exact closed
  | takeIdle ref ticket =>
    simp only [ClientState.perform, onPool]
    split <;> exact closed
  | send lease request => cases lease <;> exact closed
  | answer lease request => cases lease <;> exact closed
  | dial node => cases choice <;> exact closed
  | _ => exact closed

variable (shut : state.Shut)
include shut

/-- A closed client says so. -/
theorem Shut.isClosed (choice : Op.isClosed.Choice) : (state.perform .isClosed choice).1 = true :=
  -- The answer is the flag itself.
  shut.closed

/-- No slot of a closed client has an owner. -/
theorem Shut.owner (slot : Nat) (choice : (Op.owner slot).Choice) :
    (state.perform (.owner slot) choice).1 = none :=
  shut.tidy.ownerless shut.closed slot

/-- A closed client finds no pool for any node. -/
theorem Shut.lookup (node : Endpoint) (choice : (Op.lookup node).Choice) :
    (state.perform (.lookup node) choice).1 = none := by
  show state.topology.nodes.lookup node.nodeKey = none
  -- There is nothing to be found among no nodes.
  rw [shut.tidy.emptied shut.closed]
  rfl

/-- A closed client registers no node. -/
theorem Shut.register (node : Endpoint) (choice : (Op.register node).Choice) :
    (state.perform (.register node) choice).1 = .error .clientClosed := by
  simp [ClientState.perform, withTopology, Topology.register, shut.closed]

/-- A closed client gives no slots away. -/
theorem Shut.assign (slots : List Nat) (node : Endpoint) (choice : (Op.assign slots node).Choice) :
    (state.perform (.assign slots node) choice).1 = .error .clientClosed := by
  simp [ClientState.perform, withTopology, Topology.assign, Topology.register, shut.closed]

/-- A closed client knows no nodes. -/
theorem Shut.nodeCount (choice : Op.nodeCount.Choice) : (state.perform .nodeCount choice).1 = 0 := by
  show state.topology.nodes.length = 0
  rw [shut.tidy.emptied shut.closed]
  rfl

/-- No pool of a closed client lets anybody in. -/
theorem Shut.enter (ref : PoolRef) (choice : (Op.enter ref).Choice) :
    ∃ error, (state.perform (.enter ref) choice).1 = .error error ∧ error.isConnectivity = true := by
  simp only [ClientState.perform, onPool]
  split
  · exact ⟨_, rfl, rfl⟩
  · rename_i pool found
    -- No node is registered any more, so the pool is closed.
    have closed : pool.closed = true := by
      rcases shut.tidy.retired _ pool found with ⟨entry, member, _⟩ | closed
      · simp [shut.tidy.emptied shut.closed] at member
      · exact closed
    exact ⟨pool.closedError, by simp [Pool.enter, closed], rfl⟩

end ClientState

end RedisCluster
