import RedisCluster.Proofs.Topology.Shut
import RedisCluster.Proofs.Topology.Steady

/-! Tables that grow: registering nodes, giving slots away and loading layouts forget no node, and as
long as none is forgotten each of them keeps its pool. Tables that differ inside their pools at most grow
alike. -/

namespace RedisCluster.Topology

variable {topology : Topology}

/-- Registering a node forgets none. -/
theorem nodes_register (topology : Topology) (node : Endpoint) :
    topology.nodes ⊆ (topology.register node).2.nodes := by
  rcases register_cases topology node with ⟨_, same⟩ | ⟨_, _, _, same⟩ | ⟨_, _, same⟩ <;> rw [same]
  · exact List.Subset.refl _
  · exact List.Subset.refl _
  -- Whatever is registered newly stands behind the nodes of before.
  · exact List.subset_append_left _ _

/-- Giving slots to a node forgets none. -/
theorem nodes_assign (topology : Topology) (slots : List Nat) (node : Endpoint) :
    topology.nodes ⊆ (topology.assign slots node).2.nodes := by
  have kept := nodes_register topology node
  rcases assign_cases topology slots node with ⟨_, same⟩ | ⟨pool, grown, registered, same⟩
  · rw [same]
    exact List.Subset.refl _
  · -- Writing the slots leaves the nodes as the registration left them.
    rw [registered] at kept
    rw [same]
    exact kept

/-- Loading a layout forgets no node. -/
theorem nodes_rebuild (topology : Topology) (ranges : List SlotRange) :
    topology.nodes ⊆ (topology.rebuild ranges).2.nodes :=
  rebuild_induction (motive := fun table => topology.nodes ⊆ table.nodes) ranges
    (List.Subset.refl _) (List.Subset.refl _) fun table slots node kept =>
      List.Subset.trans kept (nodes_assign table slots node)

/-- The pool that is found for a node is found for it as long as no node is forgotten. -/
theorem lookup_of_nodes {before after : Topology} (distinct : (after.nodes.map Prod.fst).Nodup)
    (kept : before.nodes ⊆ after.nodes) {node : Endpoint} {pool : PoolRef}
    (found : before.lookup node = some pool) : after.lookup node = some pool :=
  -- The entry is still there, and its key is in use once.
  node?_of_mem distinct (kept (mem_of_node? found))

/-- Registering a node leaves every slot to its owner. -/
@[simp] theorem owner_register (topology : Topology) (node : Endpoint) (slot : Nat) :
    (topology.register node).2.owner slot = topology.owner slot := by
  -- Where a pool is made, it is added to the table and owns nothing yet.
  rcases register_cases topology node with ⟨_, same⟩ | ⟨_, _, _, same⟩ | ⟨_, _, same⟩
  · rw [same]
  · rw [same]
  · rw [same]
    rfl

/-- A slot that belongs to a node is with the pool that is registered for the node. -/
theorem owner_of_ownedBy (consistent : topology.Consistent) {slot : Nat} {node : Endpoint}
    (owned : topology.OwnedBy slot node) : topology.owner slot = topology.lookup node := by
  obtain ⟨pool, owns, same⟩ := owned
  -- The owner is registered under the key of its own spelling, which is that of the node.
  rw [owns, lookup, ← Endpoint.sameNode_iff.1 same]
  exact (consistent.owned slot pool owns).symm

namespace Steady

variable {before after : Topology}

/-- Tables that differ inside their pools at most have pools for the same numbers. -/
theorem size (steady : Steady before after) : after.pools.size = before.pools.size := by
  have bound : ∀ {one other : Topology}, Steady one other → other.pools.size ≤ one.pools.size := by
    intro one other steady
    -- There is no pool behind the last one, so the other table has none there either.
    have missing : one.pool? one.pools.size = none := Array.getElem?_eq_none (Nat.le_refl _)
    have same := steady.faces one.pools.size
    rw [missing, Option.map_none, Option.map_eq_none_iff] at same
    exact Array.getElem?_eq_none_iff.1 same
  exact Nat.le_antisymm (bound steady) (bound steady.symm)

/-- A node that is registered with both tables gets the same pool from both. -/
theorem register (steady : Steady before after) (node : Endpoint) :
    (after.register node).1 = (before.register node).1 ∧
      Steady (before.register node).2 (after.register node).2 := by
  have found : after.lookup node = before.lookup node := by
    rw [lookup, node?, steady.nodes]
    rfl
  rcases register_cases before node with
    ⟨shut, same⟩ | ⟨accepting, pool, known, same⟩ | ⟨accepting, unknown, same⟩ <;> rw [same]
  -- Both tables are closed.
  · have refused : after.register node = (.error .clientClosed, after) := by
      simp [Topology.register, steady.closed, shut]
    rw [refused]
    exact ⟨rfl, steady⟩
  -- Both know the node, under the same number.
  · have given : after.register node = (.ok pool, after) := by
      simp [Topology.register, steady.closed, accepting, found, known]
    rw [given]
    exact ⟨rfl, steady⟩
  -- Neither knows it, and both make a pool for it behind their last one.
  · have made : after.register node = (.ok ⟨after.pools.size, node⟩, after.enroll node) := by
      simp [Topology.register, steady.closed, accepting, found, unknown, enroll, addPool]
    rw [made, steady.size]
    refine ⟨rfl, ?_, steady.slots, steady.closed, steady.config, fun id => ?_⟩
    · simp only [enroll, steady.nodes, steady.size]
    · -- The new pools have one number and one face, and the others are as they were.
      rw [pool?_enroll, pool?_enroll, steady.size, steady.config]
      split
      · rfl
      · exact steady.faces id

/-- Slots that are given to one node in both tables are given to the same pool. -/
theorem assign (steady : Steady before after) (slots : List Nat) (node : Endpoint) :
    Steady (before.assign slots node).2 (after.assign slots node).2 := by
  obtain ⟨answers, grown⟩ := steady.register node
  unfold Topology.assign
  -- The two registrations answer the same, so the same pool is pointed at.
  generalize before.register node = first at answers grown ⊢
  generalize after.register node = second at answers grown ⊢
  obtain ⟨_, one⟩ := first
  obtain ⟨answer, other⟩ := second
  obtain rfl := answers
  cases answer with
  | error error => exact grown
  | ok pool =>
    -- The slots are written behind the registration.
    have slots : other.slots = one.slots := grown.slots
    exact ⟨grown.nodes, by simp only [point, slots], grown.closed, grown.config, grown.faces⟩

/-- A layout that is loaded into both tables makes the same of both. -/
theorem rebuild (steady : Steady before after) (ranges : List SlotRange) :
    Steady (before.rebuild ranges).2 (after.rebuild ranges).2 := by
  -- From the front of the layout, each range is an assignment to both tables.
  have places : ∀ (ranges : List SlotRange) {one other : Topology}, Steady one other →
      Steady (ranges.foldl place one) (ranges.foldl place other) := by
    intro ranges
    induction ranges with
    | nil => exact fun steady => steady
    | cons range rest ih => exact fun steady => ih (steady.assign range.slots range.master)
  unfold Topology.rebuild
  rw [steady.closed]
  split
  · exact steady
  · exact places ranges ⟨steady.nodes, rfl, steady.closed, steady.config, steady.faces⟩

end Steady

end RedisCluster.Topology
