import RedisCluster.Proofs.Pool.Occupancy
import RedisCluster.Proofs.Pool.Undisturbed

/-! Tasks that share pools with a permit for each of them: nobody waits. -/

namespace RedisCluster

/-- The place in a pool that a step is about. -/
def Op.place? : Op → Option (PoolRef × Ticket)
  | awaitPermit pool ticket | takeIdle pool ticket | connect pool ticket | leave pool ticket
  | send (.pooled pool ticket) _ | answer (.pooled pool ticket) _ => some (pool, ticket)
  | _ => none

/-- Steps elsewhere are about no place at all. -/
theorem Op.place?_of_elsewhere {op : Op} (outside : op.isElsewhere = true) : op.place? = none := by
  cases op with
  | send lease request => cases lease <;> first | rfl | simp [Op.isElsewhere] at outside
  | answer lease request => cases lease <;> first | rfl | simp [Op.isElsewhere] at outside
  | _ => first | rfl | simp [Op.isElsewhere] at outside

/-- A caller takes such a step at its own place. -/
theorem Phase.Leads.exists_stay {phase next : Phase} {op : Op} {answer : op.Answer}
    (leads : phase.Leads op answer next) {ref : PoolRef} {ticket : Ticket}
    (here : op.place? = some (ref, ticket)) : ∃ stay, phase = .inside ref ticket stay := by
  cases leads with
  -- Neither who comes in nor who is elsewhere has a place that its step is about.
  | elsewhere outside => simp [Op.place?_of_elsewhere outside] at here
  | entered pool ticket => simp [Op.place?] at here
  | refused pool error => simp [Op.place?] at here
  | _ =>
    -- The step names the place, and the caller is there.
    simp only [Op.place?, Option.some.injEq, Prod.mk.injEq] at here
    obtain ⟨rfl, rfl⟩ := here
    exact ⟨_, rfl⟩

/-- Who waits for a permit has just come in, or was there before and did something else. -/
theorem Phase.Leads.arrival {phase : Phase} {op : Op} {answer : op.Answer} {ref : PoolRef}
    {ticket : Ticket} (leads : phase.Leads op answer (.inside ref ticket .waiting)) :
    op = .enter ref ∨ op.place? = none ∧ phase = .inside ref ticket .waiting := by
  cases leads with
  | entered _ _ => exact .inl rfl
  -- The caller was waiting before, and its step was one elsewhere.
  | elsewhere outside => exact .inr ⟨Op.place?_of_elsewhere outside, rfl⟩

/-- A caller that holds a permit stays at its stage as long as others move. -/
theorem Pool.Evolves.keeps {before after : Pool} {mover ticket : Ticket} {stage : Stage}
    (evolves : before.Evolves mover after) (apart : ticket ≠ mover)
    (held : before.stage? ticket = some stage) : after.stage? ticket = some stage := by
  rcases evolves.others ticket apart with same | ⟨waited, _⟩
  · rwa [same]
  -- Whoever had no stage before was not at this one.
  · simp [held] at waited

namespace Topology

/-- A caller of a pool is at a stage. -/
def Staged (topology : Topology) (id : Nat) (ticket : Ticket) (stage : Stage) : Prop :=
  ∃ pool, topology.pool? id = some pool ∧ pool.stage? ticket = some stage

/-- A caller has a permit that it has not used yet. -/
def Granted (topology : Topology) (id : Nat) (ticket : Ticket) : Prop :=
  ∃ pool, topology.pool? id = some pool ∧ pool.stage? ticket = some .granted

namespace Staged

variable {topology after : Topology} {id : Nat} {ticket : Ticket} {stage : Stage}

/-- Changes of one pool for the sake of another caller move nobody else. -/
theorem updatePool (staged : topology.Staged id ticket stage) (other : Nat) {change : Pool → Pool}
    (evolves : ∀ pool, topology.pool? other = some pool →
      ∃ mover, pool.Evolves mover (change pool) ∧ (other = id → ticket ≠ mover)) :
    (topology.updatePool other change).Staged id ticket stage := by
  obtain ⟨pool, found, held⟩ := staged
  by_cases same : other = id
  · -- In the same pool it is another caller who moves.
    subst same
    obtain ⟨mover, evolved, apart⟩ := evolves pool found
    exact ⟨change pool, by rw [pool?_updatePool, if_pos rfl, found, Option.map_some],
      evolved.keeps (apart rfl) held⟩
  -- Another pool has nothing to do with it.
  · exact ⟨pool, by rw [pool?_updatePool, if_neg same, found], held⟩

/-- A renewal of the pools moves nobody. -/
theorem renew (staged : topology.Staged id ticket stage) (renewed : Renewed topology after) :
    after.Staged id ticket stage := by
  obtain ⟨pool, found, held⟩ := staged
  rcases renewed.kept id pool found with same | shut
  · exact ⟨pool, same, held⟩
  · -- Closing a pool drops no permit; its owner is told when it comes to use it.
    exact ⟨pool.close, shut, (pool.evolves_close (ticket + 1)).keeps (by simp) held⟩

end Staged

end Topology

namespace ClientState

variable {state : ClientState} {id : Nat} {ticket : Ticket} {stage : Stage}

/-- A step of one pool for the sake of another caller moves nobody else. -/
theorem staged_onPool {α : Type} (staged : state.topology.Staged id ticket stage) (ref : PoolRef)
    (missing : α) {step : Pool → α × Pool}
    (evolves : ∀ pool, state.topology.pool? ref.id = some pool →
      ∃ mover, pool.Evolves mover (step pool).2 ∧ (ref.id = id → ticket ≠ mover)) :
    (state.onPool ref missing step).2.topology.Staged id ticket stage := by
  unfold onPool
  split
  -- A pool that was never made is asked in vain.
  · exact staged
  · rename_i pool found
    refine staged.updatePool _ fun known located => ?_
    rw [found, Option.some.injEq] at located
    exact located ▸ evolves pool found

/-- Noting whether another caller's connection may be reused moves nobody else. -/
theorem staged_mark (staged : state.topology.Staged id ticket stage) (lease : Lease) (broken : Bool)
    (apart : ∀ ref other, lease = .pooled ref other → ref.id = id → ticket ≠ other) :
    (state.mark lease broken).topology.Staged id ticket stage := by
  cases lease with
  | pooled ref other =>
    exact staged.updatePool _ fun pool _ => ⟨_, pool.evolves_mark other broken, apart ref other rfl⟩
  | direct node number => exact staged

/-- Who holds a permit is at the same stage after a step that is about another place. -/
theorem staged_perform (staged : state.topology.Staged id ticket stage)
    (sound : ∀ id pool, state.topology.pool? id = some pool → pool.Sound) (op : Op)
    (choice : op.Choice)
    (apart : ∀ ref other, op.place? = some (ref, other) → ref.id = id → ticket ≠ other) :
    (state.perform op choice).2.topology.Staged id ticket stage := by
  cases op with
  | enter ref =>
    refine staged_onPool staged ref _ fun pool found => ⟨_, pool.evolves_enter, ?_⟩
    -- The newcomer gets a ticket that nobody has.
    rintro rfl rfl
    obtain ⟨known, located, held⟩ := staged
    rw [found, Option.some.injEq] at located
    subst located
    simp [(sound _ _ found).stage?_nextTicket] at held
  -- The other steps of a pool are about a place of another caller.
  | awaitPermit ref other =>
    exact staged_onPool staged ref _ fun pool _ =>
      ⟨_, pool.evolves_awaitPermit other, apart ref other rfl⟩
  | takeIdle ref other =>
    exact staged_onPool staged ref _ fun pool _ =>
      ⟨_, pool.evolves_takeIdle other, apart ref other rfl⟩
  | connect ref other =>
    exact staged.updatePool _ fun pool _ =>
      ⟨_, pool.evolves_opened other choice, apart ref other rfl⟩
  | leave ref other =>
    exact staged.updatePool _ fun pool _ => ⟨_, pool.evolves_leave other, apart ref other rfl⟩
  -- A request is noted at the place of whoever sends it.
  | send lease request =>
    exact staged_mark staged lease _ fun ref other same => apart ref other (by rw [same]; rfl)
  | answer lease request =>
    exact staged_mark staged lease _ fun ref other same => apart ref other (by rw [same]; rfl)
  -- All other steps renew the table at most, which moves nobody.
  | _ => exact staged.renew (.of_elsewhere rfl state choice)

end ClientState

namespace System

variable {α : Type} {system : System α} {phase : Nat → Phase} {index : Nat} {ref : PoolRef}
  {pool : Pool} {holdings : Holdings}

/-- The tasks of a system are in their places, and whoever was let into a pool has a permit. -/
structure Attended (system : System α) (phase : Nat → Phase) : Prop where
  occupied : system.Occupied phase
  granted : ∀ index ref ticket, phase index = .inside ref ticket .waiting →
    system.state.topology.Granted ref.id ticket

namespace Attended

/-- Where no pool has fewer permits than there are tasks, a newcomer finds one. -/
theorem available_pos (attended : system.Attended phase) {task : Task α}
    (found : system.tasks[index]? = some task) (outside : phase index = .away)
    (present : system.state.topology.pool? ref.id = some pool)
    (room : system.tasks.length ≤ Pool.capacity pool.config) : 0 < pool.available := by
  -- The permits of a pool are counted by the tasks that hold them.
  have count := attended.occupied.countP_permit? present
  have permits := (attended.occupied.housed.sound _ _ present).permits
  -- The newcomer has no permit itself.
  have none : (task.permit? ref.id pool).isSome = false := by
    cases held : task.permit? ref.id pool with
    | none => rfl
    | some ticket =>
      obtain ⟨_, _, _, inside, _⟩ :=
        (Task.permit?_eq_some_iff (attended.occupied.stands index task found)).1 held
      simp [outside] at inside
  -- Permits are held by tasks, so all but the newcomer hold them all at most.
  have fewer : system.tasks.countP (fun task => (task.permit? ref.id pool).isSome) <
      system.tasks.length := by
    -- If all tasks held a permit, the newcomer would, too.
    refine Nat.lt_of_le_of_ne List.countP_le_length fun all => ?_
    have held := List.countP_eq_length.1 all task (List.mem_of_getElem? found)
    simp [none] at held
  omega

/-- A task that wants to enter a pool has no place yet. -/
theorem away_of_enter (attended : system.Attended phase)
    {next : (Op.enter ref).Answer → Program α}
    (found : system.tasks[index]? = some (.running (.ask (.enter ref) next) holdings)) :
    phase index = .away := by
  obtain ⟨after, leads, _⟩ := (attended.occupied.stands index _ found).1 (.ok 0)
  generalize phase index = place at leads
  -- Entering is a step that only a caller outside of all pools takes.
  cases leads with
  | entered _ _ => rfl
  | elsewhere outside => simp [Op.isElsewhere] at outside

/-- A task that wants to enter an open pool with room for all tasks gets a permit. -/
theorem enter (attended : system.Attended phase) {next : (Op.enter ref).Answer → Program α}
    (found : system.tasks[index]? = some (.running (.ask (.enter ref) next) holdings))
    (present : system.state.topology.pool? ref.id = some pool) (accepting : pool.closed = false)
    (room : system.tasks.length ≤ Pool.capacity pool.config) :
    ∃ ticket, (system.state.perform (.enter ref) ()).1 = .ok ticket ∧
      (system.state.perform (.enter ref) ()).2.topology.Granted ref.id ticket := by
  -- There are as many permits as tasks, so one of them is left.
  have spare := attended.available_pos found (attended.away_of_enter found) present room
  have free : pool.Free pool.endpoint :=
    ⟨attended.occupied.housed.sound _ _ present, accepting, rfl, spare⟩
  -- A pool with a spare permit grants it on entering.
  obtain ⟨entered, attending⟩ := free.enter
  simp only [ClientState.perform, ClientState.onPool_eq present]
  exact ⟨_, entered, _, ClientState.pool?_withPool present _, attending.fits⟩

/-- A task that was let into an open pool does not wait. -/
theorem awaitPermit (attended : system.Attended phase) {ticket : Ticket}
    {next : (Op.awaitPermit ref ticket).Answer → Program α}
    (found : system.tasks[index]? = some (.running (.ask (.awaitPermit ref ticket) next) holdings))
    (present : system.state.topology.pool? ref.id = some pool) (accepting : pool.closed = false) :
    (system.state.perform (.awaitPermit ref ticket) ()).1 = .ok () := by
  obtain ⟨after, leads, _⟩ := (attended.occupied.stands index _ found).1 (.ok ())
  -- Only a caller that waits asks for its permit.
  have inside : phase index = .inside ref ticket .waiting := by
    generalize phase index = place at leads
    cases leads with
    | admitted _ _ => rfl
    | elsewhere outside => simp [Op.isElsewhere] at outside
  -- Whoever waits has been granted one, which is the invariant.
  obtain ⟨known, located, granted⟩ := attended.granted index ref ticket inside
  rw [present, Option.some.injEq] at located
  subst located
  simp [ClientState.perform, ClientState.onPool_eq present, Pool.awaitPermit, accepting, granted]

/-- Whatever step a task takes, everyone who was let in has a permit afterwards. -/
theorem step (attended : system.Attended phase) {op : Op} {next : op.Answer → Program α}
    (found : system.tasks[index]? = some (.running (.ask op next) holdings))
    (surroundings : (op : Op) → op.Choice)
    (welcome : ∀ ref, op = .enter ref → ∃ pool, system.state.topology.pool? ref.id = some pool ∧
      pool.closed = false ∧ system.tasks.length ≤ Pool.capacity pool.config) :
    ∃ after, (system.move (.step index surroundings)).Attended after := by
  have housed := attended.occupied.housed
  obtain ⟨place, leads, orderly⟩ := (attended.occupied.stands index _ found).1
    (system.state.perform op (surroundings op)).1
  -- The rest of the program is ready for wherever the answer leads.
  have stands : Task.Stands (.running (next (system.state.perform op (surroundings op)).1)
      (holdings.after op (system.state.perform op (surroundings op)).1)) place :=
    ⟨orderly, leads.places (attended.occupied.stands index _ found).2⟩
  refine ⟨settle phase index place, ?_, fun other ref ticket inside => ?_⟩
  · -- The others stay in their places, and this task goes where the step leads it.
    have moved := attended.occupied.set found (housed.perform leads) stands
    simpa [move, onTask, found, Task.step] using moved
  · -- Permits that were granted before are about other places than the one of this step.
    have kept : ∀ task, phase task = .inside ref ticket .waiting →
        (task = index → op.place? = none) →
        (system.state.perform op (surroundings op)).2.topology.Granted ref.id ticket := by
      intro task here apart
      refine ClientState.staged_perform (attended.granted task ref ticket here) housed.sound op _
        fun there own about same => ?_
      -- A step about this very place could be taken by its owner only.
      rintro rfl
      obtain ⟨stay, mine⟩ := leads.exists_stay about
      simp [apart (housed.apart _ _ _ _ _ _ _ here mine same.symm)] at about
    have state : (system.move (.step index surroundings)).state =
        (system.state.perform op (surroundings op)).2 := by
      simp [move, onTask, found, Task.step]
    rw [state]
    by_cases mine : other = index
    · subst mine
      rw [settle_same] at inside
      subst inside
      -- The task has come in by this step, which `welcome` is about, or was waiting before it.
      rcases leads.arrival with rfl | ⟨nowhere, here⟩
      · obtain ⟨pool, present, accepting, room⟩ := welcome ref rfl
        obtain ⟨given, entered, granted⟩ := attended.enter found present accepting room
        -- The newcomer has the permit that it was given on entering.
        have entered : (system.state.perform (.enter ref) (surroundings (.enter ref))).1 =
            .ok given := entered
        rw [entered] at leads
        generalize phase other = place at leads
        cases leads with
        | entered _ _ => exact granted
        | elsewhere outside => simp [Op.isElsewhere] at outside
      · exact kept other here fun _ => nowhere
    · rw [settle_other _ _ mine] at inside
      exact kept other inside fun same => absurd same mine

/-- A task that comes to its end has no place that it could take a permit from. -/
theorem finish (attended : system.Attended phase) {value : α}
    (found : system.tasks[index]? = some (.running (.done value) holdings)) :
    (⟨system.state, system.tasks.set index (.finished value)⟩ : System α).Attended phase :=
  ⟨(attended.occupied.finish found).2, attended.granted⟩

end Attended

end System

end RedisCluster
