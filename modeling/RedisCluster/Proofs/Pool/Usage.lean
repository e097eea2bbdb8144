import RedisCluster.Proofs.Client.Business
import RedisCluster.Proofs.Pool.Occupancy

/-! The permits in use: a caller that leaves takes back all that it has changed in the count, whatever
it has done since it came. -/

namespace RedisCluster

/-- Every pool is as it was, and pools that are new are unused. -/
structure Enlarged (before after : Topology) : Prop where
  config : after.config = before.config
  kept : ∀ id pool, before.pool? id = some pool → after.pool? id = some pool
  fresh : ∀ id pool, before.pool? id = none → after.pool? id = some pool →
    ∃ endpoint, pool = Pool.new endpoint before.config

namespace Enlarged

variable {before middle after : Topology}

/-- Pools that are as they were are as they were. -/
theorem of_pool? (config : after.config = before.config)
    (same : ∀ id, after.pool? id = before.pool? id) : Enlarged before after where
  config := config
  kept id pool found := (same id).trans found
  fresh id pool missing found := by simp [same, missing] at found

/-- Pools may be added twice. -/
theorem trans (first : Enlarged before middle) (second : Enlarged middle after) :
    Enlarged before after where
  config := second.config.trans first.config
  kept id pool found := second.kept id pool (first.kept id pool found)
  fresh id pool missing found := by
    cases halfway : middle.pool? id with
    -- It was added by the second step, under the configuration that the first one has kept.
    | none =>
      have made := second.fresh id pool halfway found
      rwa [first.config] at made
    | some young =>
      -- A pool that was added first is still unused.
      have same := second.kept id young halfway
      rw [found, Option.some.injEq] at same
      exact first.fresh id pool missing (same ▸ halfway)

/-- A node that is registered gets a pool of its own, or has one. -/
theorem register (topology : Topology) (endpoint : Endpoint) :
    Enlarged topology (topology.register endpoint).2 := by
  rcases Topology.register_cases topology endpoint with
    ⟨_, same⟩ | ⟨_, pool, _, same⟩ | ⟨_, _, grown⟩
  -- A table that is closed, and a node that is known, get no pool.
  · exact .of_pool? (by rw [same]) fun id => by rw [same]
  · exact .of_pool? (by rw [same]) fun id => by rw [same]
  · rw [grown]
    refine ⟨rfl, fun id pool found => ?_, fun id pool missing found => ?_⟩
    · -- Pools are numbered in the order in which they are made.
      have older : id ≠ topology.pools.size := by
        have := Topology.lt_size_of_pool? found
        omega
      rw [Topology.pool?_enroll, if_neg older, found]
    -- The only new place is the last one.
    · rw [Topology.pool?_enroll] at found
      split at found
      · exact ⟨endpoint, (Option.some.inj found).symm⟩
      · simp [missing] at found

/-- Giving slots away adds the pool of the new owner at most. -/
theorem assign (topology : Topology) (slots : List Nat) (endpoint : Endpoint) :
    Enlarged topology (topology.assign slots endpoint).2 := by
  have registered := register topology endpoint
  rcases Topology.assign_cases topology slots endpoint with ⟨_, same⟩ | ⟨pool, grown, made, same⟩
  -- The new owner could not be registered, so nothing was given away.
  · exact .of_pool? (by rw [same]) fun id => by rw [same]
  · rw [made] at registered
    rw [same]
    exact registered.trans (.of_pool? rfl fun _ => rfl)

/-- Loading a layout adds the pools of new owners at most. -/
theorem rebuild (topology : Topology) (ranges : List SlotRange) :
    Enlarged topology (topology.rebuild ranges).2 := by
  -- Taking the owners away touches no pool.
  have same : Enlarged topology topology := .of_pool? rfl fun _ => rfl
  have cleared : Enlarged topology topology.clearSlots := .of_pool? rfl fun _ => rfl
  exact Topology.rebuild_induction (motive := Enlarged topology) ranges same cleared
    fun table slots endpoint enlarged => enlarged.trans (assign table slots endpoint)

/-- A step that concerns no place in a pool and closes nothing adds pools at most. -/
theorem of_elsewhere {op : Op} (outside : op.isElsewhere = true) (stays : op.closes = false)
    (state : ClientState) (choice : op.Choice) :
    Enlarged state.topology (state.perform op choice).2.topology := by
  cases op with
  | register node => exact register _ _
  | assign slots node => exact assign _ _ _
  | rebuild ranges => exact rebuild _ _
  | send lease request =>
    cases lease with
    | pooled pool ticket => simp [Op.isElsewhere] at outside
    | direct node number => exact .of_pool? rfl fun _ => rfl
  | answer lease request =>
    cases lease with
    | pooled pool ticket => simp [Op.isElsewhere] at outside
    | direct node number => exact .of_pool? rfl fun _ => rfl
  | dial node => cases choice <;> exact .of_pool? rfl fun _ => rfl
  -- These close pools.
  | reset => simp [Op.closes] at stays
  | close => simp [Op.closes] at stays
  | closePool pool => simp [Op.closes] at stays
  -- These are steps inside a pool.
  | enter pool => simp [Op.isElsewhere] at outside
  | awaitPermit pool ticket => simp [Op.isElsewhere] at outside
  | takeIdle pool ticket => simp [Op.isElsewhere] at outside
  | connect pool ticket => simp [Op.isElsewhere] at outside
  | leave pool ticket => simp [Op.isElsewhere] at outside
  | _ => exact .of_pool? rfl fun _ => rfl

end Enlarged

namespace Pool

variable {pool changed : Pool} {ticket : Ticket} {stage : Stage}

/-- A new pool has no permit in use. -/
@[simp] theorem active_new (endpoint : Endpoint) (config : PoolConfig) :
    (new endpoint config).active = 0 :=
  Nat.sub_self _

/-- What counts when a caller leaves is whether it has a permit, and whether somebody waits for it. -/
theorem active_leave_congr (config : changed.config = pool.config)
    (available : changed.available = pool.available) (waiting : changed.waiting = pool.waiting)
    (held : (changed.stage? ticket).isSome = (pool.stage? ticket).isSome) :
    (changed.leave ticket).active = (pool.leave ticket).active := by
  unfold leave
  cases before : pool.stage? ticket with
  | none =>
    -- A caller with no permit gives none back in either pool.
    cases after : changed.stage? ticket with
    | none => simp [active, config, available]
    | some stage => simp [before, after] at held
  | some old =>
    cases after : changed.stage? ticket with
    | none => simp [before, after] at held
    | some stage =>
      -- The permit goes to the same caller, or becomes available in both.
      cases queue : pool.waiting with
      | nil => simp [releasePermit, active, config, available, waiting, queue]
      | cons next rest => simp [releasePermit, active, config, available, waiting, queue]

/-- A caller that moves to another stage gives back as much when it leaves. -/
theorem active_leave_setStage (held : pool.stage? ticket = some stage) (next : Stage) :
    ((pool.setStage ticket next).leave ticket).active = (pool.leave ticket).active := by
  -- It had a permit at its old stage, and has it at the next.
  refine active_leave_congr rfl rfl rfl ?_
  rw [stage?_setStage, if_pos rfl, held, Option.map_some, Option.isSome_some, Option.isSome_some]

/-- A caller that takes an idle connection, or sets out to open one, gives back as much when it
leaves. -/
theorem active_leave_takeIdle (held : pool.stage? ticket = some stage) :
    ((pool.takeIdle ticket).2.leave ticket).active = (pool.leave ticket).active := by
  unfold takeIdle
  split
  · exact active_leave_setStage held _
  · -- How many connections are idle does not count.
    rename_i connection rest stock
    have still : ({ pool with idle := rest } : Pool).stage? ticket = some stage := held
    exact (active_leave_setStage still _).trans (active_leave_congr rfl rfl rfl rfl)

/-- Whether its connection may be reused changes nothing about what a caller gives back. -/
theorem active_leave_mark (held : pool.stage? ticket = some stage) (broken : Bool) :
    ((pool.mark ticket broken).leave ticket).active = (pool.leave ticket).active := by
  unfold mark
  split
  · exact active_leave_setStage held _
  -- Without a connection there is nothing to mark.
  · rfl

/-- A caller that leaves again as soon as it has come changes no count. -/
theorem Sound.active_leave_enter (sound : pool.Sound) (entered : pool.enter.1 = .ok ticket) :
    (pool.enter.2.leave ticket).active = pool.active := by
  have fresh := sound.stage?_nextTicket
  rcases pool.enter_cases with ⟨_, refused⟩ | ⟨_, _, queued⟩ | ⟨_, spare, admitted⟩
  · simp [refused] at entered
  · -- Who only waits has no permit to give back.
    rw [queued, Except.ok.injEq] at entered
    subst entered
    rw [queued, leave_of_waiting (by exact fresh)]
    rfl
  · -- A permit was available, so nobody waits for the one that comes back.
    rw [admitted, Except.ok.injEq] at entered
    subst entered
    have unheld : pool.holders.lookup pool.nextTicket = none := fresh
    have held : ({ pool with
        available := pool.available - 1
        holders := pool.holders ++ [(pool.nextTicket, .granted)]
        nextTicket := pool.nextTicket + 1 } : Pool).stage? pool.nextTicket = some .granted := by
      simp [stage?, List.lookup_append, unheld]
    -- The permit that was taken comes back, as nobody is in line for it.
    rw [admitted, leave_of_holder held]
    have unattended := sound.served spare
    have back : pool.available - 1 + 1 = pool.available := by omega
    simp [releasePermit, active, evict, unattended, back]

end Pool

namespace Topology

/-- The permits of a pool that are in use; of a pool that was never made there are none. -/
def inUse (topology : Topology) (id : Nat) : Nat :=
  (topology.pool? id).elim 0 Pool.active

/-- As many permits are in use as before, but for those of a single pool. -/
theorem inUse_eq_of_replaced {id : Nat} {pool changed : Pool} {before after : Topology}
    (found : before.pool? id = some pool) (replaced : Replaced id changed before after)
    (same : changed.active = pool.active) (other : Nat) : after.inUse other = before.inUse other := by
  rw [inUse, inUse, replaced]
  split
  -- Another pool is the same one as before.
  · rename_i here
    rw [← here, found]
    exact same
  · rfl

/-- Pools that are added have no permit in use. -/
theorem inUse_eq_of_enlarged {before after : Topology} (enlarged : Enlarged before after)
    (id : Nat) : after.inUse id = before.inUse id := by
  unfold inUse
  cases old : before.pool? id with
  | some pool => rw [enlarged.kept id pool old]
  | none =>
    cases new : after.pool? id with
    | none => rfl
    | some pool =>
      obtain ⟨endpoint, rfl⟩ := enlarged.fresh id pool old new
      -- It is a new pool, whose permits are all there.
      exact Pool.active_new _ _

/-- A caller that leaves changes nothing but its pool. -/
theorem vacate_replaced {topology : Topology} {ref : PoolRef} {pool : Pool}
    (found : topology.pool? ref.id = some pool) (ticket : Ticket) (stay : Stay) :
    Replaced ref.id (pool.leave ticket) topology (topology.vacate (.inside ref ticket stay)) := by
  intro other
  rw [vacate, pool?_updatePool]
  split
  · rename_i same
    -- The pool that is left is the one that was named.
    rw [← same, found, Option.map_some]
  · rfl

end Topology

namespace Housed

variable {state : ClientState} {phase : Nat → Phase} {task : Nat}

/-- A pool that moves on inside counts the same once its caller has left. -/
theorem inUse_proceed {before after : Topology} {ref : PoolRef} {pool changed : Pool}
    {ticket : Ticket} (found : before.pool? ref.id = some pool)
    (replaced : Replaced ref.id changed before after)
    (same : (changed.leave ticket).active = (pool.leave ticket).active) (stay next : Stay)
    (id : Nat) : (after.vacate (.inside ref ticket next)).inUse id =
      (before.vacate (.inside ref ticket stay)).inUse id := by
  -- Once the caller is gone, the two tables differ in one pool at most, and its count is the same.
  have present : after.pool? ref.id = some changed := by rw [replaced, if_pos rfl]
  have left := Topology.vacate_replaced present ticket next
  have gone := Topology.vacate_replaced found ticket stay
  unfold Topology.inUse
  rw [left, gone]
  split
  · exact same
  · rename_i elsewhere
    rw [replaced, if_neg elsewhere]

/-- Whatever step a caller takes, as many permits would be in use without it as before. -/
theorem inUse_perform (housed : Housed state.topology phase) {op : Op} {choice : op.Choice}
    {next : Phase} (leads : (phase task).Leads op (state.perform op choice).1 next)
    (stays : op.closes = false) (id : Nat) :
    ((state.perform op choice).2.topology.vacate next).inUse id =
      (state.topology.vacate (phase task)).inUse id := by
  generalize here : phase task = current at leads
  generalize given : (state.perform op choice).1 = answer at leads
  cases leads with
  | entered ref ticket =>
    cases found : state.topology.pool? ref.id with
    -- A pool that was never made lets nobody in.
    | none => simp [ClientState.perform, ClientState.onPool, found, ClientState.missing] at given
    | some pool =>
      simp only [ClientState.perform, ClientState.onPool_eq found] at given ⊢
      -- The newcomer leaves the pool as full as it was.
      have left := Topology.vacate_replaced (ClientState.pool?_withPool found pool.enter.2) ticket
        .waiting
      refine Topology.inUse_eq_of_replaced found (fun other => ?_)
        ((housed.sound _ _ found).active_leave_enter given) id
      rw [left, ClientState.withPool_replaced found]
      split <;> rfl
  | refused ref error =>
    cases found : state.topology.pool? ref.id with
    | none => simp [ClientState.perform, ClientState.onPool, found, Topology.vacate]
    | some pool =>
      simp only [ClientState.perform, ClientState.onPool_eq found] at given ⊢
      -- Who is refused is not let in at all.
      refine Topology.inUse_eq_of_replaced found
        (ClientState.withPool_replaced found pool.enter.2) ?_ id
      rcases pool.enter_cases with ⟨_, kept⟩ | ⟨_, _, queued⟩ | ⟨_, _, admitted⟩
      -- The pool is as it was, and the other two ways to come in are no refusals.
      · rw [kept]
      · simp [queued] at given
      · simp [admitted] at given
  | admitted ref ticket =>
    obtain ⟨pool, found, _⟩ := housed.fits _ _ _ _ here
    simp only [ClientState.perform, ClientState.onPool_eq found] at given ⊢
    refine inUse_proceed found (ClientState.withPool_replaced found _) ?_ _ _ id
    rcases pool.awaitPermit_cases ticket with ⟨_, same⟩ | ⟨error, denied⟩
    -- The permit is there, and the pool unchanged.
    · rw [same]
    · simp [denied] at given
  | denied ref ticket error =>
    obtain ⟨pool, found, _⟩ := housed.fits _ _ _ _ here
    simp only [ClientState.perform, ClientState.onPool_eq found] at given ⊢
    -- Who has waited in vain has left.
    have left : (pool.awaitPermit ticket).2 = pool.leave ticket := by
      rcases pool.awaitPermit_cases ticket with ⟨_, same⟩ | ⟨error, denied⟩
      · simp [same] at given
      · rw [denied]
    unfold Topology.inUse
    rw [left, Topology.vacate_replaced found, Topology.vacate, ClientState.withPool_replaced found]
  | reused ref ticket =>
    obtain ⟨pool, found, _, fits⟩ := housed.fits _ _ _ _ here
    simp only [ClientState.perform, ClientState.onPool_eq found] at given ⊢
    -- Idle or not, the caller has its permit still.
    exact inUse_proceed found (ClientState.withPool_replaced found _)
      (Pool.active_leave_takeIdle fits) _ _ id
  | opening ref ticket =>
    obtain ⟨pool, found, _, fits⟩ := housed.fits _ _ _ _ here
    simp only [ClientState.perform, ClientState.onPool_eq found] at given ⊢
    exact inUse_proceed found (ClientState.withPool_replaced found _)
      (Pool.active_leave_takeIdle fits) _ _ id
  | opened ref ticket =>
    obtain ⟨pool, found, _, fits⟩ := housed.fits _ _ _ _ here
    have outcome : choice = .ok () := given
    subst outcome
    refine inUse_proceed found (ClientState.changePool_replaced found _) ?_ _ _ id
    -- To count a connection up is nothing that the permits notice.
    have still : ({ pool with nextConnection := pool.nextConnection + 1 } : Pool).stage? ticket =
        some .opening := fits
    exact (Pool.active_leave_setStage still _).trans (Pool.active_leave_congr rfl rfl rfl rfl)
  | failed ref ticket error =>
    obtain ⟨pool, found, _⟩ := housed.fits _ _ _ _ here
    have outcome : choice = .error error := given
    subst outcome
    -- Who fails to connect has left in the same step.
    rfl
  | sent ref ticket request =>
    obtain ⟨pool, found, _, _, _, held⟩ := housed.fits _ _ _ _ here
    -- The mark is a note on the connection, and the permit stays.
    exact inUse_proceed found (ClientState.changePool_replaced found _)
      (Pool.active_leave_mark held true) _ _ id
  | answered ref ticket request answer =>
    obtain ⟨pool, found, _, _, _, held⟩ := housed.fits _ _ _ _ here
    exact inUse_proceed found (ClientState.changePool_replaced found _)
      (Pool.active_leave_mark held _) _ _ id
  | left ref ticket stay => rfl
  | elsewhere outside =>
    have enlarged := Enlarged.of_elsewhere outside stays state choice
    cases next with
    -- Outside of all pools only the enlarged table is compared.
    | away => exact Topology.inUse_eq_of_enlarged enlarged id
    | inside ref ticket stay =>
      obtain ⟨pool, found, _⟩ := housed.fits _ _ _ _ here
      -- The caller's pool is as it was, and pools that are new are not in use.
      have left := Topology.vacate_replaced found ticket stay
      have gone := Topology.vacate_replaced (enlarged.kept _ _ found) ticket stay
      have same := Topology.inUse_eq_of_enlarged enlarged id
      unfold Topology.inUse at same ⊢
      rw [left, gone]
      split
      · rfl
      · exact same

end Housed

end RedisCluster
