import RedisCluster.Proofs.Endpoint.NodeKey
import RedisCluster.Proofs.Pool.Undisturbed

/-! Open tables whose pools can all serve a caller at once. -/

namespace RedisCluster.Topology

/-- A consistent table is open, and each of its open pools has a connection to spare. -/
structure Ready (topology : Topology) : Prop where
  consistent : topology.Consistent
  accepting : topology.closed = false
  /-- Pools that are made from now on have connections to spare as well. -/
  roomy : 0 < Pool.capacity topology.config
  free : ∀ id pool, topology.pool? id = some pool → pool.closed = false → pool.Free pool.endpoint

/-- A slot belongs to a node, under some spelling of its host. -/
def OwnedBy (topology : Topology) (slot : Nat) (node : Endpoint) : Prop :=
  ∃ ref, topology.owner slot = some ref ∧ ref.endpoint.sameNode node = true

/-- A slot with the same owner as before belongs to the same node. -/
theorem OwnedBy.of_owner {before after : Topology} {slot : Nat} {node : Endpoint}
    (owned : before.OwnedBy slot node) (same : after.owner slot = before.owner slot) :
    after.OwnedBy slot node := by
  rwa [OwnedBy, same]

/-- Only slots of the table have owners. -/
theorem lt_of_owner {topology : Topology} {slot : Nat} {ref : PoolRef}
    (owns : topology.owner slot = some ref) : slot < slotCount := by
  rcases Nat.lt_or_ge slot slotCount with inside | outside
  · exact inside
  · -- Outside the table there is no entry.
    simp [owner, Vector.getElem?_eq_none outside] at owns

/-- A table is told by the owners of its slots. -/
theorem slots_of_owner {before after : Topology}
    (same : ∀ slot, slot < slotCount → after.owner slot = before.owner slot) :
    after.slots = before.slots := by
  refine Vector.ext fun slot inside => ?_
  have owner := same slot inside
  -- The entries of the table are its owners, as far as the table goes.
  simpa [Topology.owner, inside] using owner

namespace Ready

variable {topology : Topology} {endpoint : Endpoint} {ref : PoolRef}

/-- The pool registered for a node is free. -/
theorem free_of_node? (ready : topology.Ready) {key : String}
    (found : topology.node? key = some ref) :
    ∃ pool, topology.pool? ref.id = some pool ∧ pool.Free ref.endpoint := by
  -- A registered pool is open, and so it is free.
  obtain ⟨pool, present, same, accepting⟩ := ready.consistent.live _ (mem_of_node? found)
  have free := ready.free _ pool present accepting
  rw [same] at free
  exact ⟨pool, present, free⟩

/-- The owner of a slot is free. -/
theorem free_of_owner (ready : topology.Ready) {slot : Nat} (owns : topology.owner slot = some ref) :
    ∃ pool, topology.pool? ref.id = some pool ∧ pool.Free ref.endpoint :=
  ready.free_of_node? (ready.consistent.owned slot ref owns)

/-- A node is registered at once, and every slot keeps its owner. -/
theorem register (ready : topology.Ready) (endpoint : Endpoint) :
    ∃ ref, (topology.register endpoint).1 = .ok ref ∧
      ref.endpoint.sameNode endpoint = true ∧ (topology.register endpoint).2.Ready ∧
      (∃ pool, (topology.register endpoint).2.pool? ref.id = some pool ∧ pool.Free ref.endpoint) ∧
      ∀ slot, (topology.register endpoint).2.owner slot = topology.owner slot := by
  have consistent := ready.consistent.register endpoint
  rcases register_cases topology endpoint with
    ⟨shut, _⟩ | ⟨_, ref, known, same⟩ | ⟨_, _, grown⟩
  -- The table is open, so nobody is refused.
  · simp [ready.accepting] at shut
  · obtain ⟨key, found⟩ := ready.consistent.node?_of_register same
    rw [same]
    exact ⟨ref, rfl, Endpoint.sameNode_iff.2 key, ready, ready.free_of_node? found, fun _ => rfl⟩
  · obtain ⟨key, _⟩ := ready.consistent.node?_of_register grown
    rw [grown] at consistent ⊢
    -- The new pool has all its permits.
    have fresh : (Pool.new endpoint topology.config).Free endpoint :=
      ⟨Pool.new_sound _ _, rfl, rfl, ready.roomy⟩
    have enrolled : (topology.enroll endpoint).Ready := by
      refine ⟨consistent, ready.accepting, ready.roomy, fun id pool present accepting => ?_⟩
      rw [pool?_enroll] at present
      split at present
      · rw [← Option.some.inj present]
        exact fresh
      · exact ready.free id pool present accepting
    -- The new node comes with its own spelling.
    refine ⟨_, rfl, Endpoint.sameNode_iff.2 key, enrolled, ?_, fun _ => rfl⟩
    exact ⟨_, by rw [pool?_enroll, if_pos rfl], fresh⟩

/-- A slot that is given to a node belongs to it from then on, and all others keep their owners. -/
theorem assign (ready : topology.Ready) {slot : Nat} (inside : slot < slotCount)
    (endpoint : Endpoint) :
    ∃ ref, (topology.assign [slot] endpoint).1 = .ok ref ∧
      (topology.assign [slot] endpoint).2.Ready ∧
      (topology.assign [slot] endpoint).2.OwnedBy slot endpoint ∧
      ∀ other, other ≠ slot →
        (topology.assign [slot] endpoint).2.owner other = topology.owner other := by
  have consistent := ready.consistent.assign [slot] endpoint
  obtain ⟨ref, answer, same, grown, _, kept⟩ := ready.register endpoint
  -- The table that registers the node is the one that is written to.
  rcases assign_cases topology [slot] endpoint with ⟨shut, _⟩ | ⟨pool, after, registered, assigned⟩
  · simp [ready.accepting] at shut
  · rw [registered, Except.ok.injEq] at answer
    subst answer
    rw [registered] at grown kept
    rw [assigned] at consistent ⊢
    -- Pointing the slot at its new owner touches no pool.
    refine ⟨pool, rfl, ⟨consistent, grown.accepting, grown.roomy, grown.free⟩, ⟨pool, ?_, same⟩,
      fun other apart => ?_⟩
    · rw [owner_point, if_pos ⟨List.mem_singleton_self _, inside⟩]
    · rw [owner_point, if_neg (fun given => apart (List.mem_singleton.1 given.1)), kept]

/-- A table stays ready while its pools are free. -/
theorem withPool {state : ClientState} (ready : state.topology.Ready) {pool left : Pool}
    (found : state.topology.pool? ref.id = some pool) (accepting : pool.closed = false)
    (free : left.Free pool.endpoint) : (state.withPool ref.id left).topology.Ready := by
  have replaced := ClientState.withPool_replaced found left
  have consistent := ready.consistent
  refine ⟨⟨consistent.keyed, consistent.distinct, fun entry member => ?_,
    fun id current present => ?_, consistent.owned, consistent.emptied⟩, ready.accepting,
    ready.roomy, fun id current present open_ => ?_⟩
  -- The pool of an entry is the replaced one, or as it was.
  · obtain ⟨current, present, same, live⟩ := consistent.live entry member
    rw [replaced]
    split
    · -- The pool that was replaced belongs to the same node as before.
      rename_i here
      rw [← here, found, Option.some.injEq] at present
      exact ⟨left, rfl, by rw [free.endpoint, present, same], free.accepting⟩
    · exact ⟨current, present, same, live⟩
  · rw [replaced] at present
    split at present
    · rename_i here
      -- The pool was open, so it must be registered.
      refine .inl ((consistent.retired id pool (here ▸ found)).resolve_right ?_)
      simp [accepting]
    · exact consistent.retired id current present
  · rw [replaced] at present
    split at present
    -- Free is what it was replaced by.
    · rw [← Option.some.inj present, free.endpoint]
      exact free
    · exact ready.free id current present open_

end Ready

end RedisCluster.Topology
