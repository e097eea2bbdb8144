import RedisCluster.Program.Trace

/-! The routing table and the pools behind it agree after every call that changes the table. -/

namespace RedisCluster.Topology

/-- The table with a new pool for a node that it did not know. -/
def enroll (topology : Topology) (endpoint : Endpoint) : Topology :=
  { topology with
    pools := topology.pools.push (Pool.new endpoint topology.config)
    nodes := topology.nodes ++ [(endpoint.nodeKey, ⟨topology.pools.size, endpoint⟩)] }

/-- Registering a node fails, finds its pool or makes one. -/
theorem register_cases (topology : Topology) (endpoint : Endpoint) :
    (topology.closed = true ∧ topology.register endpoint = (.error .clientClosed, topology)) ∨
    (topology.closed = false ∧ ∃ pool, topology.lookup endpoint = some pool ∧
      topology.register endpoint = (.ok pool, topology)) ∨
    (topology.closed = false ∧ topology.lookup endpoint = none ∧
      topology.register endpoint =
        (.ok ⟨topology.pools.size, endpoint⟩, topology.enroll endpoint)) := by
  -- The closed flag is looked at before the table of nodes.
  cases shut : topology.closed with
  | true => exact .inl ⟨rfl, by simp [register, shut]⟩
  | false =>
    cases known : topology.lookup endpoint with
    | some pool => exact .inr (.inl ⟨rfl, pool, rfl, by simp [register, shut, known]⟩)
    | none => exact .inr (.inr ⟨rfl, rfl, by simp [register, shut, known, addPool, enroll]⟩)

/-- A node is refused only by a closed table, which stays as it was. -/
theorem register_error {topology after : Topology} {endpoint : Endpoint} {error : ClientError}
    (refused : topology.register endpoint = (.error error, after)) :
    topology.closed = true ∧ error = .clientClosed ∧ after = topology := by
  -- Only the first of the three answers is an error.
  rcases register_cases topology endpoint with ⟨shut, same⟩ | ⟨_, _, _, same⟩ | ⟨_, _, same⟩
  · simp only [same, Prod.mk.injEq, Except.error.injEq] at refused
    exact ⟨shut, refused.1.symm, refused.2.symm⟩
  · simp [same] at refused
  · simp [same] at refused

/-- Slots are given to a node once it is registered, and only then. -/
theorem assign_cases (topology : Topology) (slots : List Nat) (endpoint : Endpoint) :
    (topology.closed = true ∧ topology.assign slots endpoint = (.error .clientClosed, topology)) ∨
    ∃ pool grown, topology.register endpoint = (.ok pool, grown) ∧
      topology.assign slots endpoint = (.ok pool, grown.point slots pool) := by
  unfold assign
  cases registered : topology.register endpoint with
  | mk answer after =>
    cases answer with
    -- Nobody was registered, so no slot was written.
    | error error =>
      obtain ⟨shut, rfl, rfl⟩ := register_error registered
      exact .inl ⟨shut, rfl⟩
    | ok pool => exact .inr ⟨pool, after, rfl, rfl⟩

/-- No slot has an owner once all owners are taken away. -/
@[simp] theorem owner_clearSlots (topology : Topology) (slot : Nat) :
    topology.clearSlots.owner slot = none := by
  -- Inside the table every entry is empty, and outside there is no entry.
  by_cases inside : slot < slotCount
  · simp [owner, clearSlots, inside]
  · simp [owner, clearSlots, inside]

/-- Pointing slots at a pool changes the owners of exactly those slots. -/
theorem owner_point (topology : Topology) (slots : List Nat) (pool : PoolRef) (slot : Nat) :
    (topology.point slots pool).owner slot =
      if slot ∈ slots ∧ slot < slotCount then some pool else topology.owner slot := by
  -- The slots are set one after the other, so the table before them stays quantified over.
  have general : ∀ (slots : List Nat) (table : Vector (Option PoolRef) slotCount),
      (slots.foldl (fun table slot => table.setIfInBounds slot (some pool)) table)[slot]?.join =
        if slot ∈ slots ∧ slot < slotCount then some pool else table[slot]?.join := by
    intro slots
    induction slots with
    | nil => simp
    | cons first rest ih =>
      intro table
      rw [List.foldl_cons, ih, Vector.getElem?_setIfInBounds]
      -- A slot that is set is the first of the list, or is looked for among the rest.
      by_cases same : first = slot
      · subst same
        by_cases inside : first < slotCount <;> simp [inside]
      · simp [same, Ne.symm same]
  exact general slots topology.slots

/-- What holds of a table and of the table without owners, and survives every assignment, holds of a
table that is rebuilt. -/
theorem rebuild_induction {motive : Topology → Prop} {topology : Topology} (ranges : List SlotRange)
    (here : motive topology) (cleared : motive topology.clearSlots)
    (assigned : ∀ table slots endpoint, motive table →
      motive (Topology.assign table slots endpoint).2) :
    motive (topology.rebuild ranges).2 := by
  unfold Topology.rebuild
  split
  -- A closed table is not rebuilt.
  · exact here
  · -- The ranges are placed one after the other.
    have placed : ∀ (ranges : List SlotRange) (table : Topology), motive table →
        motive (ranges.foldl place table) := by
      intro ranges
      induction ranges with
      | nil => exact fun _ holds => holds
      | cons range rest ih => exact fun table holds => ih _ (assigned _ _ _ holds)
    exact placed ranges _ cleared

/-- Changing one pool leaves all others as they were. -/
theorem pool?_updatePool (topology : Topology) (id other : Nat) (change : Pool → Pool) :
    (topology.updatePool id change).pool? other =
      if id = other then (topology.pool? other).map change else topology.pool? other := by
  simp only [updatePool, pool?, Array.getElem?_modify]

/-- A new node adds its pool behind the pools that were made before. -/
theorem pool?_enroll (topology : Topology) (endpoint : Endpoint) (id : Nat) :
    (topology.enroll endpoint).pool? id =
      if id = topology.pools.size then some (Pool.new endpoint topology.config)
      else topology.pool? id := by
  simp only [enroll, pool?, Array.getElem?_push]

/-- Only numbers below the number of pools belong to pools. -/
theorem lt_size_of_pool? {topology : Topology} {id : Nat} {pool : Pool}
    (found : topology.pool? id = some pool) : id < topology.pools.size :=
  (Array.getElem?_eq_some_iff.1 found).1

end RedisCluster.Topology

namespace RedisCluster.Pool

/-- Closing a pool twice is closing it once. -/
@[simp] theorem close_close (pool : Pool) : pool.close.close = pool.close := by
  -- The second call finds the flag set.
  cases shut : pool.closed <;> simp [close, shut]

@[simp] theorem close_closed (pool : Pool) : pool.close.closed = true := by
  cases shut : pool.closed <;> simp [close, shut]

@[simp] theorem close_endpoint (pool : Pool) : pool.close.endpoint = pool.endpoint := by
  cases shut : pool.closed <;> simp [close, shut]

end RedisCluster.Pool

namespace RedisCluster.Topology

/-- A reset closes the registered pools and no others. -/
theorem pool?_reset (topology : Topology) (id : Nat) :
    topology.reset.pool? id = (topology.pool? id).map fun pool =>
      if ∃ entry ∈ topology.nodes, entry.2.id = id then pool.close else pool := by
  -- The registered pools are closed one after the other.
  have general : ∀ (entries : List (String × PoolRef)) (pools : Array Pool),
      (entries.foldl (fun pools entry => pools.modify entry.2.id Pool.close) pools)[id]? =
        pools[id]?.map fun pool =>
          if ∃ entry ∈ entries, entry.2.id = id then pool.close else pool := by
    intro entries
    induction entries with
    | nil => simp
    | cons first rest ih =>
      intro pools
      rw [List.foldl_cons, ih, Array.getElem?_modify]
      -- A pool that is named again is closed twice, which is once.
      by_cases same : first.2.id = id
      · by_cases again : ∃ entry ∈ rest, entry.2.id = id <;>
          cases found : pools[id]? <;> simp [same, again]
      · have elsewhere : (∃ entry ∈ first :: rest, entry.2.id = id) ↔
            ∃ entry ∈ rest, entry.2.id = id := by
          simp [same]
        simp only [if_neg same, elsewhere]
  exact general topology.nodes topology.pools

/-- The registered nodes, the owners of slots and the pools tell the same story. -/
structure Consistent (topology : Topology) : Prop where
  /-- Every pool is registered under the key of its node. -/
  keyed : ∀ entry ∈ topology.nodes, entry.1 = entry.2.endpoint.nodeKey
  /-- No key is in use twice. -/
  distinct : (topology.nodes.map Prod.fst).Nodup
  /-- Every registered pool was made for its node, and is open. -/
  live : ∀ entry ∈ topology.nodes, ∃ pool, topology.pool? entry.2.id = some pool ∧
    pool.endpoint = entry.2.endpoint ∧ pool.closed = false
  /-- Every pool that is not registered is closed. -/
  retired : ∀ id pool, topology.pool? id = some pool →
    (∃ entry ∈ topology.nodes, entry.2.id = id) ∨ pool.closed = true
  /-- Every pool that owns a slot is the one that is registered for its node. -/
  owned : ∀ slot pool, topology.owner slot = some pool →
    topology.node? pool.endpoint.nodeKey = some pool
  /-- A closed table is empty. -/
  emptied : topology.closed = true → topology.nodes = []

/-- The entry of a table that a lookup finds. -/
theorem mem_of_node? {topology : Topology} {key : String} {pool : PoolRef}
    (found : topology.node? key = some pool) : (key, pool) ∈ topology.nodes := by
  -- The lookup returns a member whose key is the requested one.
  unfold node? at found
  generalize topology.nodes = entries at found
  induction entries with
  | nil => simp at found
  | cons entry rest ih =>
    rcases entry with ⟨used, first⟩
    -- The first entry is the one that is looked for, or the lookup goes on behind it.
    by_cases same : key = used
    · subst same
      simp only [List.lookup_cons, beq_self_eq_true, Option.some.injEq] at found
      simp [← found]
    · have other : (key == used) = false := by simpa using same
      simp only [List.lookup_cons, other] at found
      exact List.mem_cons_of_mem _ (ih found)

/-- Where no key is in use twice, every entry is found under its key. -/
theorem node?_of_mem {topology : Topology} (distinct : (topology.nodes.map Prod.fst).Nodup)
    {key : String} {pool : PoolRef} (member : (key, pool) ∈ topology.nodes) :
    topology.node? key = some pool := by
  unfold node?
  generalize topology.nodes = entries at distinct member
  induction entries with
  | nil => simp at member
  | cons entry rest ih =>
    rcases entry with ⟨used, first⟩
    rw [List.map_cons, List.nodup_cons] at distinct
    rcases List.mem_cons.1 member with same | later
    -- The first entry of the list is the first that a lookup meets.
    · cases same
      simp
    · -- A later entry has another key than the first.
      have other : key ≠ used := fun same => distinct.1 (List.mem_map.2 ⟨_, later, same⟩)
      have unequal : (key == used) = false := by simpa using other
      simpa only [List.lookup_cons, unequal] using ih distinct.2 later

/-- An entry of a table stays where it is when a node is added behind it. -/
theorem node?_enroll_of_some {topology : Topology} {endpoint : Endpoint} {key : String}
    {pool : PoolRef} (found : topology.node? key = some pool) :
    (topology.enroll endpoint).node? key = some pool := by
  simp only [node?] at found ⊢
  simp [enroll, List.lookup_append, found]

namespace Consistent

variable {topology : Topology}

/-- A table without nodes and owners is consistent if all its pools are closed. -/
theorem of_empty (nodes : topology.nodes = []) (owners : ∀ slot, topology.owner slot = none)
    (retired : ∀ id pool, topology.pool? id = some pool → pool.closed = true) :
    topology.Consistent where
  -- Nothing is registered, so the six facts hold of nothing.
  keyed := by simp [nodes]
  distinct := by simp [nodes]
  live := by simp [nodes]
  retired id pool found := .inr (retired id pool found)
  owned := by simp [owners]
  emptied _ := nodes

/-- A pool that is found for a node is the pool of that node, under some spelling. -/
theorem nodeKey_of_lookup (consistent : topology.Consistent) {endpoint : Endpoint} {pool : PoolRef}
    (found : topology.lookup endpoint = some pool) :
    pool.endpoint.nodeKey = endpoint.nodeKey :=
  (consistent.keyed _ (mem_of_node? found)).symm

/-- Only an open table knows any node. -/
theorem open_of_lookup (consistent : topology.Consistent) {endpoint : Endpoint} {pool : PoolRef}
    (found : topology.lookup endpoint = some pool) : topology.closed = false := by
  cases shut : topology.closed with
  | false => rfl
  | true => simp [lookup, node?, consistent.emptied shut] at found

/-- A new node under a new key keeps an open table consistent. -/
theorem enroll (consistent : topology.Consistent) (accepting : topology.closed = false)
    {endpoint : Endpoint} (unknown : topology.lookup endpoint = none) :
    (topology.enroll endpoint).Consistent where
  keyed entry member := by
    -- An old entry has its key, and the new one is made with its own.
    rcases List.mem_append.1 member with old | new
    · exact consistent.keyed entry old
    · rw [List.mem_singleton.1 new]
  distinct := by
    -- A key in use would have been found.
    have fresh : endpoint.nodeKey ∉ topology.nodes.map Prod.fst := by
      intro used
      obtain ⟨entry, member, same⟩ := List.mem_map.1 used
      have found := node?_of_mem consistent.distinct member
      simp [lookup, ← same, found] at unknown
    simp only [Topology.enroll, List.map_append, List.map_cons, List.map_nil]
    exact List.nodup_append.2 ⟨consistent.distinct, by simp, by
      intro key used other last same
      rw [List.mem_singleton.1 last] at same
      exact fresh (same ▸ used)⟩
  live entry member := by
    rcases List.mem_append.1 member with old | new
    · -- An older pool keeps its number.
      obtain ⟨pool, found, rest⟩ := consistent.live entry old
      have older : entry.2.id ≠ topology.pools.size := by
        have := lt_size_of_pool? found
        omega
      exact ⟨pool, by rw [pool?_enroll, if_neg older, found], rest⟩
    · rw [List.mem_singleton.1 new]
      exact ⟨_, by rw [pool?_enroll, if_pos rfl], rfl, rfl⟩
  retired id pool found := by
    rw [pool?_enroll] at found
    split at found
    -- The last pool is the registered one, and earlier pools are registered or closed as before.
    · rename_i last
      exact .inl ⟨_, List.mem_append_right _ (List.mem_singleton_self _), last.symm⟩
    · rcases consistent.retired id pool found with ⟨entry, member, same⟩ | shut
      · exact .inl ⟨entry, List.mem_append_left _ member, same⟩
      · exact .inr shut
  owned slot pool owns := node?_enroll_of_some (consistent.owned slot pool owns)
  emptied shut := by
    -- The table was open, and joining does not close it.
    have : topology.closed = true := shut
    simp [accepting] at this

/-- Registering a node keeps a table consistent. -/
theorem register (consistent : topology.Consistent) (endpoint : Endpoint) :
    (topology.register endpoint).2.Consistent := by
  rcases register_cases topology endpoint with
    ⟨_, same⟩ | ⟨_, pool, _, same⟩ | ⟨accepting, unknown, grown⟩
  -- Neither a refusal nor a known node changes the table.
  · rwa [same]
  · rwa [same]
  · rw [grown]
    exact consistent.enroll accepting unknown

/-- Pointing slots at the registered pool of a node keeps a table consistent. -/
theorem point (consistent : topology.Consistent) (slots : List Nat) {pool : PoolRef}
    (registered : topology.node? pool.endpoint.nodeKey = some pool) :
    (topology.point slots pool).Consistent where
  keyed := consistent.keyed
  distinct := consistent.distinct
  live := consistent.live
  retired := consistent.retired
  owned slot owner owns := by
    rw [owner_point] at owns
    -- A slot that is pointed at has the registered pool, and the others have theirs.
    split at owns
    · rw [← Option.some.inj owns]
      exact registered
    · exact consistent.owned slot owner owns
  emptied := consistent.emptied

/-- A node that was registered is found under its key from then on. -/
theorem node?_of_register (consistent : topology.Consistent) {endpoint : Endpoint} {pool : PoolRef}
    {grown : Topology} (registered : topology.register endpoint = (.ok pool, grown)) :
    pool.endpoint.nodeKey = endpoint.nodeKey ∧ grown.node? endpoint.nodeKey = some pool := by
  rcases register_cases topology endpoint with
    ⟨_, same⟩ | ⟨_, known, found, same⟩ | ⟨accepting, unknown, made⟩
  · simp [same] at registered
  · -- A node that was known keeps the pool that it has.
    simp only [same, Prod.mk.injEq, Except.ok.injEq] at registered
    obtain ⟨rfl, rfl⟩ := registered
    exact ⟨consistent.nodeKey_of_lookup found, found⟩
  -- The new node has been put under its key.
  · simp only [made, Prod.mk.injEq, Except.ok.injEq] at registered
    obtain ⟨rfl, rfl⟩ := registered
    have member : (endpoint.nodeKey, ⟨topology.pools.size, endpoint⟩) ∈
        (topology.enroll endpoint).nodes := by
      simp [Topology.enroll]
    exact ⟨rfl, node?_of_mem (consistent.enroll accepting unknown).distinct member⟩

/-- Giving slots to a node keeps a table consistent. -/
theorem assign (consistent : topology.Consistent) (slots : List Nat) (endpoint : Endpoint) :
    (topology.assign slots endpoint).2.Consistent := by
  rcases assign_cases topology slots endpoint with ⟨_, same⟩ | ⟨pool, grown, registered, same⟩
  · rwa [same]
  · -- The slots go to the pool that is registered for the node by now.
    have after := consistent.register endpoint
    obtain ⟨key, found⟩ := consistent.node?_of_register registered
    rw [registered] at after
    rw [← key] at found
    rw [same]
    exact after.point slots found

/-- Taking away all owners keeps a table consistent. -/
theorem clearSlots (consistent : topology.Consistent) : topology.clearSlots.Consistent where
  keyed := consistent.keyed
  distinct := consistent.distinct
  live := consistent.live
  retired := consistent.retired
  owned slot owner owns := by simp at owns
  emptied := consistent.emptied

/-- Replacing the owners of all slots keeps a table consistent. -/
theorem rebuild (consistent : topology.Consistent) (ranges : List SlotRange) :
    (topology.rebuild ranges).2.Consistent :=
  rebuild_induction (motive := Consistent) ranges consistent consistent.clearSlots
    fun _ slots endpoint consistent => consistent.assign slots endpoint

/-- After a reset every pool that was ever made is closed. -/
theorem closed_of_reset (consistent : topology.Consistent) {id : Nat} {pool : Pool}
    (found : topology.reset.pool? id = some pool) : pool.closed = true := by
  -- A pool of the reset table comes from one of before.
  rw [pool?_reset] at found
  obtain ⟨before, was, rfl⟩ := Option.map_eq_some_iff.1 found
  -- A registered pool is closed by the reset, and every other one was closed before.
  split
  · exact Pool.close_closed before
  · rename_i unregistered
    exact (consistent.retired id before was).resolve_left unregistered

/-- A reset leaves a consistent table behind. -/
theorem reset (consistent : topology.Consistent) : topology.reset.Consistent :=
  of_empty rfl (owner_clearSlots topology) fun _ _ => consistent.closed_of_reset

/-- Closing leaves a consistent table behind. -/
theorem close (consistent : topology.Consistent) : topology.close.2.Consistent := by
  unfold Topology.close
  split
  -- An open table is reset, which leaves nothing to be inconsistent.
  · exact consistent
  · exact of_empty rfl (owner_clearSlots topology) fun _ _ => consistent.closed_of_reset

end Consistent

/-- A reference leads to a pool that was made for its node. -/
def Made (topology : Topology) (pool : PoolRef) : Prop :=
  -- The pool may have been closed and forgotten since.
  ∃ found, topology.pool? pool.id = some found ∧ found.endpoint = pool.endpoint

/-- Every pool that is found for a node was made. -/
theorem Consistent.made_of_node? {topology : Topology} (consistent : topology.Consistent)
    {key : String} {pool : PoolRef} (found : topology.node? key = some pool) :
    topology.Made pool := by
  obtain ⟨made, present, same, -⟩ := consistent.live _ (mem_of_node? found)
  exact ⟨made, present, same⟩

/-- Every pool that registering a node hands out was made. -/
theorem Consistent.made_of_register {topology grown : Topology} (consistent : topology.Consistent)
    {endpoint : Endpoint} {pool : PoolRef}
    (registered : topology.register endpoint = (.ok pool, grown)) : grown.Made pool := by
  have after := consistent.register endpoint
  rw [registered] at after
  exact after.made_of_node? (consistent.node?_of_register registered).2

namespace Made

variable {topology : Topology} {pool : PoolRef}

/-- Registering a node leaves all earlier pools in place. -/
theorem register (made : topology.Made pool) (endpoint : Endpoint) :
    (topology.register endpoint).2.Made pool := by
  obtain ⟨found, present, same⟩ := made
  -- The pool is in its place, since no pool is ever taken out.
  rcases register_cases topology endpoint with ⟨-, kept⟩ | ⟨-, _, -, kept⟩ | ⟨-, -, grown⟩
  · exact ⟨found, by rw [kept, present], same⟩
  · exact ⟨found, by rw [kept, present], same⟩
  · -- The new pool has a number that no earlier pool has.
    have earlier : pool.id ≠ topology.pools.size := by
      have := lt_size_of_pool? present
      omega
    exact ⟨found, by rw [grown, pool?_enroll, if_neg earlier, present], same⟩

/-- Pointing slots at a pool touches no pool. -/
theorem point (made : topology.Made pool) (slots : List Nat) (owner : PoolRef) :
    (topology.point slots owner).Made pool :=
  made

/-- Giving slots to a node leaves all earlier pools in place. -/
theorem assign (made : topology.Made pool) (slots : List Nat) (endpoint : Endpoint) :
    (topology.assign slots endpoint).2.Made pool := by
  rcases assign_cases topology slots endpoint with ⟨_, same⟩ | ⟨owner, grown, registered, same⟩
  · rwa [same]
  · have after := made.register endpoint
    rw [registered] at after
    rw [same]
    exact after.point slots owner

/-- Replacing the owners of all slots leaves all earlier pools in place. -/
theorem rebuild (made : topology.Made pool) (ranges : List SlotRange) :
    (topology.rebuild ranges).2.Made pool :=
  rebuild_induction (motive := fun table => table.Made pool) ranges made made
    fun _ slots endpoint made => Made.assign made slots endpoint

/-- A reset closes pools but takes none away. -/
theorem reset (made : topology.Made pool) : topology.reset.Made pool := by
  obtain ⟨found, present, same⟩ := made
  refine ⟨_, by rw [pool?_reset, present]; rfl, ?_⟩
  -- A closed pool still belongs to the node that it was made for.
  split
  · rw [Pool.close_endpoint, same]
  · exact same

/-- Closing the table closes pools but takes none away. -/
theorem close (made : topology.Made pool) : topology.close.2.Made pool := by
  unfold Topology.close
  split
  -- A table that was closed stays as it is.
  · exact made
  · exact made.reset

end Made

/-- A new table is consistent: it knows no nodes and has made no pools. -/
theorem consistent_new (config : PoolConfig) : Consistent { config } :=
  .of_empty rfl (owner_clearSlots { config }) (by simp [pool?])

end RedisCluster.Topology
