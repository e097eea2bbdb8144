import Mathlib.Data.List.Induction
import Mathlib.Data.List.Nodup
import RedisCluster.Proofs.Topology.Growth

/-! The known nodes as a list in which each of them stands once, in the order in which they became
known. -/

namespace RedisCluster

namespace Endpoint

variable {nodes : List Endpoint} {node : Endpoint}

/-- Some nodes and one more, unless it is among them under some spelling. -/
def join (nodes : List Endpoint) (node : Endpoint) : List Endpoint :=
  if nodes.any (·.sameNode node) then nodes else nodes ++ [node]

/-- A node is among others under some spelling if they have its key. -/
theorem any_sameNode_iff : nodes.any (·.sameNode node) = true ↔ node.nodeKey ∈ nodes.map nodeKey := by
  simp only [List.any_eq_true, sameNode_iff, List.mem_map]

/-- Further nodes join the distinct ones one after the other. -/
theorem distinct_append (front back : List Endpoint) :
    distinct (front ++ back) = back.foldl join (distinct front) :=
  List.foldl_append

/-- A node that comes last joins the distinct ones before it. -/
theorem distinct_concat (nodes : List Endpoint) (node : Endpoint) :
    distinct (nodes ++ [node]) = join (distinct nodes) node :=
  distinct_append nodes [node]

/-- No two distinct nodes have one key. -/
theorem nodup_distinct (nodes : List Endpoint) : ((distinct nodes).map nodeKey).Nodup := by
  -- The last node is the one that joins, so the list is taken apart from its end.
  induction nodes using List.reverseRecOn with
  | nil => exact List.nodup_nil
  | append_singleton nodes node ih =>
    rw [distinct_concat, join]
    split
    · exact ih
    · -- The node joins only if none of the others has its key.
      rename_i new
      rw [any_sameNode_iff] at new
      rw [List.map_append, List.map_singleton, List.nodup_append]
      refine ⟨ih, List.nodup_singleton _, fun key listed other last same => new ?_⟩
      rw [List.mem_singleton.1 last] at same
      exact same ▸ listed

/-- Nodes of which no two have one key are all distinct. -/
theorem distinct_of_nodup (apart : (nodes.map nodeKey).Nodup) : distinct nodes = nodes := by
  -- Each node joins as it comes, since its key is new among those before it.
  induction nodes using List.reverseRecOn with
  | nil => rfl
  | append_singleton nodes node ih =>
    rw [List.map_append, List.map_singleton, List.nodup_append] at apart
    obtain ⟨before, -, new⟩ := apart
    have joins : ¬nodes.any (·.sameNode node) = true := fun there =>
      new _ (any_sameNode_iff.1 there) _ (List.mem_singleton_self _) rfl
    rw [distinct_concat, ih before, join, if_neg joins]

/-- What is distinct already may be taken for what it was made from. -/
@[simp] theorem distinct_distinct_append (front back : List Endpoint) :
    distinct (distinct front ++ back) = distinct (front ++ back) := by
  rw [distinct_append, distinct_of_nodup (nodup_distinct front), ← distinct_append]

end Endpoint

namespace Topology

variable {topology : Topology}

/-- The known nodes, in the order in which they became known. -/
def knownNodes (topology : Topology) : List Endpoint :=
  topology.knownPools.map (·.endpoint)

/-- The known pools have the keys under which they are registered. -/
theorem Consistent.knownNodes_keys (consistent : topology.Consistent) :
    topology.knownNodes.map Endpoint.nodeKey = topology.nodes.map Prod.fst := by
  simp only [knownNodes, knownPools, List.map_map]
  exact List.map_congr_left fun entry member => (consistent.keyed entry member).symm

/-- No two known pools belong to one node. -/
theorem Consistent.nodup_keys (consistent : topology.Consistent) :
    (topology.knownPools.map fun pool => pool.endpoint.nodeKey).Nodup := by
  -- The keys of the table are distinct, and the known pools stand in the order of the table.
  have keys := consistent.knownNodes_keys ▸ consistent.distinct
  rwa [knownNodes, List.map_map] at keys

/-- No pool is known twice. -/
theorem Consistent.nodup_knownPools (consistent : topology.Consistent) : topology.knownPools.Nodup :=
  consistent.nodup_keys.of_map _

/-- Steps inside pools leave every pool with its node. -/
theorem Steady.made {before after : Topology} (steady : Steady before after) {ref : PoolRef}
    (made : before.Made ref) : after.Made ref := by
  obtain ⟨pool, found, node⟩ := made
  -- A pool of before has the same face afterwards, and its node is part of that.
  obtain ⟨current, present, face⟩ := steady.symm.exists_face found
  simp only [Pool.face, Prod.mk.injEq] at face
  exact ⟨current, present, face.1.symm.trans node⟩

/-- Steps inside pools leave the known pools as they are. -/
theorem Steady.knownPools {before after : Topology} (steady : Steady before after) :
    after.knownPools = before.knownPools :=
  congrArg (List.map Prod.snd) steady.nodes

/-- A pool that was made and is still open is known. -/
theorem Consistent.mem_knownPools (consistent : topology.Consistent) {ref : PoolRef}
    (made : topology.Made ref) {pool : Pool} (found : topology.pool? ref.id = some pool)
    (accepting : pool.closed = false) : ref ∈ topology.knownPools := by
  -- A pool that is not registered was closed.
  rcases consistent.retired ref.id pool found with ⟨entry, member, same⟩ | shut
  · -- The number and the node together are the reference.
    obtain ⟨_, present, node⟩ := made
    obtain ⟨_, there, known, _⟩ := consistent.live entry member
    rw [same, present, Option.some.injEq] at there
    have spelled : entry.2.endpoint = ref.endpoint := by rw [← known, ← there, node]
    rcases entry with ⟨key, id, endpoint⟩
    obtain ⟨rfl, rfl⟩ : id = ref.id ∧ endpoint = ref.endpoint := ⟨same, spelled⟩
    exact List.mem_map_of_mem member
  · exact absurd (accepting.symm.trans shut) Bool.false_ne_true

/-- No node is known twice. -/
theorem Consistent.distinct_knownNodes (consistent : topology.Consistent) :
    Endpoint.distinct topology.knownNodes = topology.knownNodes :=
  Endpoint.distinct_of_nodup (consistent.knownNodes_keys ▸ consistent.distinct)

/-- A node is found in a table if it is known under some spelling. -/
theorem Consistent.any_knownNodes_iff (consistent : topology.Consistent) {node : Endpoint} :
    topology.knownNodes.any (·.sameNode node) = true ↔ (topology.lookup node).isSome = true := by
  rw [Endpoint.any_sameNode_iff, consistent.knownNodes_keys, Option.isSome_iff_exists]
  constructor
  -- A key in the table leads to the pool that it stands for.
  · intro listed
    obtain ⟨⟨_, pool⟩, member, rfl⟩ := List.mem_map.1 listed
    exact ⟨pool, node?_of_mem consistent.distinct member⟩
  · rintro ⟨pool, found⟩
    exact List.mem_map.2 ⟨_, mem_of_node? found, rfl⟩

/-- A node that is registered with an open table joins the known ones. -/
theorem knownNodes_register (accepting : topology.closed = false) (consistent : topology.Consistent)
    (node : Endpoint) :
    (topology.register node).2.knownNodes = Endpoint.distinct (topology.knownNodes ++ [node]) := by
  rw [Endpoint.distinct_concat, consistent.distinct_knownNodes, Endpoint.join]
  rcases register_cases topology node with ⟨shut, _⟩ | ⟨_, pool, known, same⟩ | ⟨_, unknown, grown⟩
  · exact absurd (accepting.symm.trans shut) Bool.false_ne_true
  -- A node that was known, under any spelling, joins nothing.
  · have there := consistent.any_knownNodes_iff.2 (Option.isSome_iff_exists.2 ⟨pool, known⟩)
    rw [same, if_pos there]
  · have new : ¬topology.knownNodes.any (·.sameNode node) = true := by
      simp [consistent.any_knownNodes_iff, unknown]
    -- A new one is put behind all others, and so is its pool.
    rw [grown, if_neg new]
    simp [knownNodes, knownPools, enroll]

/-- A node that is given slots in an open table joins the known ones. -/
theorem knownNodes_assign (accepting : topology.closed = false) (consistent : topology.Consistent)
    (slots : List Nat) (node : Endpoint) :
    (topology.assign slots node).2.knownNodes =
      Endpoint.distinct (topology.knownNodes ++ [node]) := by
  rw [← knownNodes_register accepting consistent]
  rcases assign_cases topology slots node with ⟨shut, _⟩ | ⟨pool, grown, registered, same⟩
  · exact absurd (accepting.symm.trans shut) Bool.false_ne_true
  · -- Writing the slots leaves the nodes as the registration left them.
    rw [same, registered]
    rfl

/-- The masters of a layout that is placed in an open table join the known nodes. -/
theorem knownNodes_places (accepting : topology.closed = false) (consistent : topology.Consistent)
    (ranges : List SlotRange) :
    (ranges.foldl place topology).knownNodes =
      Endpoint.distinct (topology.knownNodes ++ ranges.map (·.master)) := by
  -- The masters join one after the other, in the order of the ranges.
  induction ranges generalizing topology with
  | nil => simp [consistent.distinct_knownNodes]
  | cons range rest ih =>
    obtain ⟨opened, _⟩ := assign_open accepting consistent range.slots range.master
    have joined := knownNodes_assign accepting consistent range.slots range.master
    have later := ih opened (consistent.assign range.slots range.master)
    -- The other masters join what the first one has joined.
    rw [joined, Endpoint.distinct_distinct_append, List.append_assoc] at later
    exact later

/-- The masters of a layout that is loaded into an open table join the known nodes. -/
theorem knownNodes_rebuild (accepting : topology.closed = false) (consistent : topology.Consistent)
    (ranges : List SlotRange) :
    (topology.rebuild ranges).2.knownNodes =
      Endpoint.distinct (topology.knownNodes ++ ranges.map (·.master)) := by
  -- Of an open table the owners are cleared before the ranges are placed.
  have whole : (topology.rebuild ranges).2 = ranges.foldl place topology.clearSlots := by
    simp [rebuild, accepting]
  have cleared : topology.clearSlots.closed = false := accepting
  rw [whole, knownNodes_places cleared consistent.clearSlots]
  rfl

/-- A table shows a layout that was loaded into another one. -/
structure Loaded (before : Topology) (ranges : List SlotRange) (after : Topology) : Prop where
  consistent : after.Consistent
  /-- Slots that the layout does not have are without an owner. -/
  owners : ∀ slot, slot < slotCount →
    match Layout.master? slot ranges with
    | some master => after.OwnedBy slot master
    | none => after.owner slot = none
  kept : before.nodes ⊆ after.nodes
  known : after.knownNodes = Endpoint.distinct (before.knownNodes ++ ranges.map (·.master))

namespace Loaded

variable {before middle after : Topology} {ranges : List SlotRange}

/-- An open table that is rebuilt from a layout shows it. -/
theorem rebuild (accepting : before.closed = false) (consistent : before.Consistent)
    (ranges : List SlotRange) : Loaded before ranges (before.rebuild ranges).2 where
  consistent := consistent.rebuild ranges
  owners _ inside := owners_rebuild accepting consistent ranges inside
  kept := nodes_rebuild before ranges
  known := knownNodes_rebuild accepting consistent ranges

/-- Steps inside pools before it is loaded make no difference to what a layout leaves behind. -/
theorem of_steady (steady : Steady before middle) (loaded : Loaded middle ranges after) :
    Loaded before ranges after where
  consistent := loaded.consistent
  owners := loaded.owners
  kept := steady.nodes ▸ loaded.kept
  -- The nodes of before are those of the moment when the layout was loaded.
  known := by
    rw [loaded.known, knownNodes, steady.knownPools]
    rfl

/-- Steps inside pools leave a table that shows a layout as it is. -/
theorem steady (loaded : Loaded before ranges middle) (steady : Steady middle after) :
    Loaded before ranges after where
  consistent := steady.consistent loaded.consistent
  owners slot inside := by
    have given := loaded.owners slot inside
    -- An owner is owner still, whether the layout gives the slot away or not.
    split at given
    · exact given.of_owner (steady.owner slot)
    · exact (steady.owner slot).trans given
  kept := by
    rw [steady.nodes]
    exact loaded.kept
  known := by
    rw [← loaded.known, knownNodes, steady.knownPools]
    rfl

end Loaded

end Topology

end RedisCluster
