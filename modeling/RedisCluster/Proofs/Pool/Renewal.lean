import RedisCluster.Proofs.Pool.Bystanders
import RedisCluster.Proofs.Pool.Callers
import RedisCluster.Proofs.Topology.Consistency

/-! What the calls that change the routing table do to the pools behind it, and what lasts whatever
step is taken. -/

namespace RedisCluster

/-- Every pool is as it was, or has been closed; pools that are new are empty. -/
structure Renewed (before after : Topology) : Prop where
  kept : ∀ id pool, before.pool? id = some pool →
    after.pool? id = some pool ∨ after.pool? id = some pool.close
  fresh : ∀ id pool, before.pool? id = none → after.pool? id = some pool →
    pool.Sound ∧ pool.tickets = []

namespace Renewed

variable {before middle after : Topology}

/-- Pools that are as they were are as they were. -/
theorem of_pool? (same : ∀ id, after.pool? id = before.pool? id) : Renewed before after where
  kept id pool found := .inl ((same id).trans found)
  fresh id pool missing found := by simp [same, missing] at found

/-- A renewal may come in two parts. -/
theorem trans (first : Renewed before middle) (second : Renewed middle after) :
    Renewed before after where
  kept id pool found := by
    -- A pool that was closed first may be closed once more, with no effect.
    rcases first.kept id pool found with same | shut
    · exact second.kept id pool same
    · rcases second.kept id _ shut with same | again
      · exact .inr same
      · exact .inr (by rw [again, Pool.close_close])
  fresh id pool missing found := by
    cases halfway : middle.pool? id with
    | none => exact second.fresh id pool halfway found
    | some young =>
      -- A pool that was new and has been closed since is still empty.
      obtain ⟨sound, empty⟩ := first.fresh id young missing halfway
      rcases second.kept id young halfway with same | shut
      · rw [same, Option.some.injEq] at found
        exact found ▸ ⟨sound, empty⟩
      · rw [shut, Option.some.injEq] at found
        subst found
        refine ⟨sound.close, List.eq_nil_iff_forall_not_mem.2 fun ticket member => ?_⟩
        have inside := (young.evolves_close (ticket + 1)).inside ticket member (by simp)
        simp [empty] at inside

/-- A node that is registered gets a pool of its own, or has one. -/
theorem register (topology : Topology) (endpoint : Endpoint) :
    Renewed topology (topology.register endpoint).2 := by
  rcases Topology.register_cases topology endpoint with
    ⟨_, same⟩ | ⟨_, pool, _, same⟩ | ⟨_, _, grown⟩
  -- A closed table makes no pool, and neither does one that knows the node.
  · exact .of_pool? fun id => by rw [same]
  · exact .of_pool? fun id => by rw [same]
  · rw [grown]
    refine ⟨fun id pool found => .inl ?_, fun id pool missing found => ?_⟩
    · -- Pools are numbered in the order in which they are made.
      have older : id ≠ topology.pools.size := by
        have := Topology.lt_size_of_pool? found
        omega
      rw [Topology.pool?_enroll, if_neg older, found]
    · rw [Topology.pool?_enroll] at found
      -- The pool that was not there before is the one that was made, and nobody is in it.
      split at found
      · rw [← Option.some.inj found]
        exact ⟨Pool.new_sound _ _, rfl⟩
      · simp [missing] at found

/-- Giving slots away changes pools only by registering the new owner. -/
theorem assign (topology : Topology) (slots : List Nat) (endpoint : Endpoint) :
    Renewed topology (topology.assign slots endpoint).2 := by
  have registered := register topology endpoint
  rcases Topology.assign_cases topology slots endpoint with ⟨_, same⟩ | ⟨pool, grown, made, same⟩
  · exact .of_pool? fun id => by rw [same]
  -- The slots are written into the table that the registration has left.
  · rw [made] at registered
    rw [same]
    exact registered.trans (.of_pool? fun _ => rfl)

/-- Rebuilding the table changes pools only by registering new owners. -/
theorem rebuild (topology : Topology) (ranges : List SlotRange) :
    Renewed topology (topology.rebuild ranges).2 := by
  -- Taking the owners away touches no pool.
  have same : Renewed topology topology := .of_pool? fun _ => rfl
  have cleared : Renewed topology topology.clearSlots := .of_pool? fun _ => rfl
  exact Topology.rebuild_induction (motive := Renewed topology) ranges same cleared
    fun table slots endpoint renewed => renewed.trans (assign table slots endpoint)

/-- A reset closes some pools and keeps the others. -/
theorem reset (topology : Topology) : Renewed topology topology.reset where
  kept id pool found := by
    rw [Topology.pool?_reset, found, Option.map_some]
    -- The pool of a node that was registered is closed, and any other one is kept.
    split
    · exact .inr rfl
    · exact .inl rfl
  fresh id pool missing found := by simp [Topology.pool?_reset, missing] at found

/-- Closing the table resets it first, if it was open. -/
theorem close (topology : Topology) : Renewed topology topology.close.2 := by
  unfold Topology.close
  -- Closing a second time does nothing.
  split
  · exact .of_pool? fun _ => rfl
  · exact (reset topology).trans (.of_pool? fun _ => rfl)

/-- Closing one pool leaves the others as they are. -/
theorem closePool (topology : Topology) (id : Nat) :
    Renewed topology (topology.updatePool id Pool.close) where
  kept other pool found := by
    rw [Topology.pool?_updatePool, found]
    -- The pool that was named is closed.
    split
    · exact .inr rfl
    · exact .inl rfl
  fresh other pool missing found := by simp [Topology.pool?_updatePool, missing] at found

/-- A step that concerns no place in a pool renews the table at most. -/
theorem of_elsewhere {op : Op} (outside : op.isElsewhere = true) (state : ClientState)
    (choice : op.Choice) : Renewed state.topology (state.perform op choice).2.topology := by
  -- Only the calls that change the table do anything to pools.
  cases op with
  | register node => exact register _ _
  | assign slots node => exact assign _ _ _
  | rebuild ranges => exact rebuild _ _
  | reset => exact reset _
  | close => exact close _
  | closePool pool => exact closePool _ _
  | send lease request =>
    cases lease with
    | pooled pool ticket => simp [Op.isElsewhere] at outside
    | direct node number => exact .of_pool? fun _ => rfl
  | answer lease request =>
    cases lease with
    | pooled pool ticket => simp [Op.isElsewhere] at outside
    | direct node number => exact .of_pool? fun _ => rfl
  | dial node => cases choice <;> exact .of_pool? fun _ => rfl
  | enter pool => simp [Op.isElsewhere] at outside
  | awaitPermit pool ticket => simp [Op.isElsewhere] at outside
  | takeIdle pool ticket => simp [Op.isElsewhere] at outside
  | connect pool ticket => simp [Op.isElsewhere] at outside
  | leave pool ticket => simp [Op.isElsewhere] at outside
  | _ => exact .of_pool? fun _ => rfl

end Renewed

/-- A later table has every pool of an earlier one, as it was configured and closed if it was. -/
def Lasting (before after : Topology) : Prop :=
  ∀ id pool, before.pool? id = some pool → ∃ later, after.pool? id = some later ∧
    later.config = pool.config ∧ (pool.closed = true → later.closed = true)

namespace Lasting

variable {before middle after : Topology}

/-- Every table lasts while nothing happens. -/
theorem refl (topology : Topology) : Lasting topology topology :=
  fun _ pool found => ⟨pool, found, rfl, fun was => was⟩

/-- What lasts from one moment to the next lasts throughout. -/
theorem trans (first : Lasting before middle) (second : Lasting middle after) :
    Lasting before after := by
  intro id pool found
  obtain ⟨young, located, same, shut⟩ := first id pool found
  -- A pool is followed from the first moment to the second, and from there to the last.
  obtain ⟨old, there, still, closed⟩ := second id young located
  exact ⟨old, there, still.trans same, fun was => closed (shut was)⟩

/-- A renewal configures no pool anew and opens none. -/
theorem of_renewed (renewed : Renewed before after) : Lasting before after := by
  intro id pool found
  rcases renewed.kept id pool found with same | shut
  · exact ⟨pool, same, rfl, fun was => was⟩
  · have evolves := pool.evolves_close 0
    exact ⟨pool.close, shut, evolves.config, evolves.closed⟩

/-- A pool that goes on after a step is configured as before, and not opened by it. -/
theorem of_updatePool (topology : Topology) (id : Nat) {change : Pool → Pool}
    (evolves : ∀ pool, topology.pool? id = some pool →
      ∃ mover, pool.Evolves mover (change pool)) :
    Lasting topology (topology.updatePool id change) := by
  intro other pool found
  rw [Topology.pool?_updatePool, found]
  split
  -- The pool that goes on is the one that was named.
  · rename_i same
    obtain ⟨_, evolves⟩ := evolves pool (same ▸ found)
    exact ⟨_, rfl, evolves.config, evolves.closed⟩
  · exact ⟨pool, rfl, rfl, fun was => was⟩

/-- A step that one pool answers lasts if the pool goes on after it. -/
theorem onPool {α : Type} (state : ClientState) (ref : PoolRef) (missing : α)
    {step : Pool → α × Pool} (evolves : ∀ pool : Pool, ∃ mover, pool.Evolves mover (step pool).2) :
    Lasting state.topology (state.onPool ref missing step).2.topology := by
  unfold ClientState.onPool
  split
  -- No pool answers, so nothing is changed.
  · exact .refl _
  · rename_i pool found
    refine of_updatePool _ _ fun known located => ?_
    rw [found, Option.some.injEq] at located
    exact located ▸ evolves pool

/-- Noting whether a connection may be reused lasts. -/
theorem mark (state : ClientState) (lease : Lease) (broken : Bool) :
    Lasting state.topology (state.mark lease broken).topology := by
  cases lease with
  | pooled ref ticket => exact of_updatePool _ _ fun pool _ => ⟨_, pool.evolves_mark ticket broken⟩
  | direct node number => exact .refl _

/-- Whatever step is taken, pools last. -/
theorem perform (state : ClientState) (op : Op) (choice : op.Choice) :
    Lasting state.topology (state.perform op choice).2.topology := by
  cases op with
  -- Steps inside a pool change neither its settings nor open it; all others renew the table at
  -- most.
  | enter ref => exact onPool _ _ _ fun pool => ⟨_, pool.evolves_enter⟩
  | awaitPermit ref ticket => exact onPool _ _ _ fun pool => ⟨_, pool.evolves_awaitPermit ticket⟩
  | takeIdle ref ticket => exact onPool _ _ _ fun pool => ⟨_, pool.evolves_takeIdle ticket⟩
  | connect ref ticket =>
    exact of_updatePool _ _ fun pool _ => ⟨_, pool.evolves_opened ticket choice⟩
  | leave ref ticket => exact of_updatePool _ _ fun pool _ => ⟨_, pool.evolves_leave ticket⟩
  | send lease request => exact mark _ _ _
  | answer lease request => exact mark _ _ _
  -- What is no step inside of a pool is elsewhere.
  | _ => exact of_renewed (.of_elsewhere rfl state choice)

/-- What a task gives back when it is cancelled does not end any pool. -/
theorem giveBack (holdings : Holdings) (state : ClientState) :
    Lasting state.topology (holdings.giveBack state).topology := by
  -- The places are left one after the other.
  have left : ∀ (places : List (PoolRef × Ticket)) (state : ClientState), Lasting state.topology
      (places.foldl (fun state place => (state.perform (.leave place.1 place.2) ()).2)
        state).topology := by
    intro places
    -- Whatever the first leaving changes, the others come after it.
    induction places with
    | nil => exact fun state => .refl _
    | cons place rest ih => exact fun state => (perform state _ _).trans (ih _)
  unfold Holdings.giveBack
  dsimp only
  split
  · exact (left _ _).trans (perform _ .endRediscovery ())
  · exact left _ _

end Lasting

end RedisCluster
