import RedisCluster.Proofs.Pool.Tenancy

/-! Tasks that share pools: whatever they do and whenever they are cancelled, no pool exceeds its
maximum, and a closed pool stays closed. -/

namespace RedisCluster

namespace Task

variable {α : Type}

/-- What a task still does, and what it holds, fit the place where it is. -/
def Stands : Task α → Phase → Prop
  | running rest holdings, phase =>
    rest.Orderly (fun _ => .away) phase ∧ holdings.places = phase.places
  | _, phase => phase = .away

/-- The ticket of a task that holds a permit of a pool. -/
def permit? (id : Nat) (pool : Pool) : Task α → Option Ticket
  | running _ holdings =>
    (holdings.places.find? fun place => place.1.id = id ∧ (pool.stage? place.2).isSome).map Prod.snd
  | _ => none

/-- The permit of a task is the one for the place where it is. -/
theorem permit?_eq_some_iff {task : Task α} {phase : Phase} (stands : task.Stands phase) {id : Nat}
    {pool : Pool} {ticket : Ticket} :
    task.permit? id pool = some ticket ↔ (pool.stage? ticket).isSome = true ∧
      ∃ ref stay, phase = .inside ref ticket stay ∧ ref.id = id := by
  cases task with
  | finished value =>
    -- A task that is over is away, and has no permit.
    have away : phase = .away := stands
    simp [permit?, away]
  | cancelled =>
    have away : phase = .away := stands
    simp [permit?, away]
  | running rest holdings =>
    cases phase with
    | away => simp [permit?, stands.2, Phase.places]
    -- A permit is held at the place of the phase, or nowhere.
    | inside ref own stay =>
      -- The only place that counts is the one of the phase.
      have own : permit? id pool (running rest holdings) =
          if ref.id = id ∧ (pool.stage? own).isSome = true then some own else none := by
        simp only [permit?, stands.2, Phase.places, List.find?_cons, List.find?_nil]
        by_cases mine : ref.id = id ∧ (pool.stage? own).isSome = true <;> simp [mine]
      rw [own]
      constructor
      · intro held
        split at held
        · rename_i mine
          rw [← Option.some.inj held]
          exact ⟨mine.2, ref, stay, rfl, mine.1⟩
        · simp at held
      · rintro ⟨held, there, reached, same, ids⟩
        rw [Phase.inside.injEq] at same
        obtain ⟨rfl, rfl, rfl⟩ := same
        exact if_pos ⟨ids, held⟩

/-- A task that is about to start has no place yet, and uses pools in order from there. -/
theorem new_stands {program : Program α} (visiting : program.Visiting) :
    (Task.new program).Stands .away :=
  ⟨visiting, rfl⟩

/-- A task that is cancelled leaves the pool where it is. -/
theorem topology_giveBack {holdings : Holdings} {phase : Phase}
    (same : holdings.places = phase.places) (state : ClientState) :
    (holdings.giveBack state).topology = state.topology.vacate phase := by
  -- Whether it was rediscovering the layout makes no difference to pools.
  have flag : ∀ state : ClientState,
      (if holdings.rediscovering then (state.perform .endRediscovery ()).2 else state).topology =
        state.topology := by
    intro state
    split <;> rfl
  simp only [Holdings.giveBack, flag, same]
  -- What is left of it is to give up the place, if there is one.
  cases phase <;> rfl

end Task

/-- A task that is cut short leaves the others in their places. -/
theorem Housed.giveBack {state : ClientState} {phase : Nat → Phase} {holdings : Holdings}
    {index : Nat} (housed : Housed state.topology phase)
    (same : holdings.places = (phase index).places) :
    Housed (holdings.giveBack state).topology (settle phase index .away) := by
  rw [Task.topology_giveBack same]
  exact housed.vacate index

namespace System

variable {α : Type} {system : System α} {phase : Nat → Phase}

/-- The tasks of a system are the callers of its pools, each in its place. -/
structure Occupied (system : System α) (phase : Nat → Phase) : Prop where
  housed : Housed system.state.topology phase
  stands : ∀ index (task : Task α), system.tasks[index]? = some task → task.Stands (phase index)
  /-- Nobody is inside who was never started. -/
  unstarted : ∀ index, system.tasks[index]? = none → phase index = .away

/-- A task that has moved on to its next place leaves the others in theirs. -/
theorem Occupied.set (occupied : system.Occupied phase) {index : Nat} {task current : Task α}
    (found : system.tasks[index]? = some task) {state : ClientState} {next : Phase}
    (housed : Housed state.topology (settle phase index next)) (stands : current.Stands next) :
    (⟨state, system.tasks.set index current⟩ : System α).Occupied (settle phase index next) := by
  refine ⟨housed, fun other current located => ?_, fun other missing => ?_⟩
  · -- The others are at their old places in the list, with their old phases.
    rw [List.getElem?_set] at located
    split at located
    · rename_i same
      split at located
      · rw [← Option.some.inj located, ← same, settle_same]
        exact stands
      · simp at located
    · rename_i apart
      rw [settle_other _ _ (Ne.symm apart)]
      exact occupied.stands other current located
  · rw [List.getElem?_set] at missing
    split at missing
    -- Its index is in the list as before.
    · -- The task that acted is still there.
      have inside := (List.getElem?_eq_some_iff.1 found).1
      simp [inside] at missing
    · rename_i apart
      rw [settle_other _ _ (Ne.symm apart)]
      exact occupied.unstarted other missing

/-- A task that acts moves itself and nobody else. -/
theorem Occupied.onTask (occupied : system.Occupied phase) (index : Nat)
    (act : ClientState → Task α → Task α × ClientState)
    (acts : ∀ task, system.tasks[index]? = some task → ∃ next,
      Housed (act system.state task).2.topology (settle phase index next) ∧
        (act system.state task).1.Stands next) :
    ∃ next, (system.onTask index act).Occupied (settle phase index next) := by
  cases found : system.tasks[index]? with
  | none =>
    -- Nobody has that number, so nothing happens.
    have same : system.onTask index act = system := by simp [System.onTask, found]
    exact ⟨phase index, by rwa [same, settle_self]⟩
  | some task =>
    have moved : system.onTask index act =
        { state := (act system.state task).2,
          tasks := system.tasks.set index (act system.state task).1 } := by
      simp [System.onTask, found]
    obtain ⟨next, housed, stands⟩ := acts task found
    rw [moved]
    exact ⟨next, occupied.set found housed stands⟩

/-- A task that comes to its end had no place any more. -/
theorem Occupied.finish (occupied : system.Occupied phase) {index : Nat} {value : α}
    {holdings : Holdings}
    (found : system.tasks[index]? = some (.running (.done value) holdings)) :
    phase index = .away ∧
      (⟨system.state, system.tasks.set index (.finished value)⟩ : System α).Occupied phase := by
  -- The end of a program is outside, as it uses pools in order.
  have outside : phase index = .away := (occupied.stands index _ found).1
  have stands : Task.Stands (.finished value) (phase index) := outside
  have finished := occupied.set found (occupied.housed.still index) stands
  -- Its place is what it was, since it had none.
  rw [settle_self] at finished
  exact ⟨outside, finished⟩

/-- A new task comes without a place. -/
theorem Occupied.start (occupied : system.Occupied phase) {program : Program α}
    (visiting : program.Visiting) : (system.move (.start program)).Occupied phase where
  housed := occupied.housed
  stands index task found := by
    simp only [move, List.getElem?_append] at found
    split at found
    · exact occupied.stands index task found
    · -- Behind the old tasks there is only the new one.
      rename_i beyond
      have outside := occupied.unstarted index (List.getElem?_eq_none (Nat.le_of_not_lt beyond))
      rw [List.getElem?_singleton] at found
      split at found
      · rw [outside, ← Option.some.inj found]
        exact Task.new_stands visiting
      · simp at found
  unstarted index missing := by
    -- A number without a task now had none before.
    refine occupied.unstarted index (List.getElem?_eq_none ?_)
    have beyond := List.getElem?_eq_none_iff.1 missing
    simp only [move, List.length_append, List.length_singleton] at beyond
    omega

/-- A task that takes a step ends up in the place that the answer gives it. -/
theorem Occupied.step (occupied : system.Occupied phase) (index : Nat)
    (surroundings : (op : Op) → op.Choice) :
    ∃ next, (system.move (.step index surroundings)).Occupied (settle phase index next) := by
  refine occupied.onTask index (Task.step surroundings) fun task found => ?_
  have stands := occupied.stands index task found
  have still := occupied.housed.still index
  cases task with
  -- Only a running task with a step to take does anything.
  | finished value => exact ⟨phase index, still, stands⟩
  | cancelled => exact ⟨phase index, still, stands⟩
  | running rest holdings =>
    cases rest with
    | done value => exact ⟨phase index, still, stands.1⟩
    | ask op follow =>
      -- The answer decides where the program allows the task to be next.
      obtain ⟨next, leads, orderly⟩ := stands.1 (system.state.perform op (surroundings op)).1
      exact ⟨next, occupied.housed.perform leads, orderly, leads.places stands.2⟩

/-- A task that is cancelled gives up its place, wherever it was. -/
theorem Occupied.cancel (occupied : system.Occupied phase) (index : Nat) :
    ∃ next, (system.move (.cancel index)).Occupied (settle phase index next) := by
  refine occupied.onTask index Task.cancel fun task found => ?_
  have stands := occupied.stands index task found
  have still := occupied.housed.still index
  cases task with
  | finished value => exact ⟨phase index, still, stands⟩
  | cancelled => exact ⟨phase index, still, stands⟩
  -- What it held is given back, which is its place.
  | running rest holdings => exact ⟨.away, occupied.housed.giveBack stands.2, rfl⟩

/-- However a move goes, the tasks are in their places afterwards. -/
theorem Occupied.move (occupied : system.Occupied phase) (move : Move α)
    (visiting : ∀ program, move = .start program → program.Visiting) :
    ∃ phase, (system.move move).Occupied phase := by
  cases move with
  | start program => exact ⟨phase, occupied.start (visiting program rfl)⟩
  | step index surroundings =>
    obtain ⟨next, stepped⟩ := occupied.step index surroundings
    exact ⟨_, stepped⟩
  | cancel index =>
    obtain ⟨next, cancelled⟩ := occupied.cancel index
    exact ⟨_, cancelled⟩

/-- Tasks that use pools in order are in their places at every moment. -/
theorem Occupied.run {moves : List (Move α)} (occupied : system.Occupied phase)
    (visiting : ∀ program, .start program ∈ moves → program.Visiting) :
    ∃ phase, (system.run moves).Occupied phase := by
  -- The moves are made one by one, and each leaves some phase behind.
  induction moves generalizing system phase with
  | nil => exact ⟨phase, occupied⟩
  | cons first rest ih =>
    obtain ⟨_, moved⟩ := occupied.move first fun program same =>
      visiting program (same ▸ List.mem_cons_self)
    exact ih moved fun program member => visiting program (List.mem_cons_of_mem _ member)

/-- Tasks that are about to start have no place in pools that nobody is inside of. -/
theorem occupied_of_vacant
    (vacant : ∀ id pool, system.state.topology.pool? id = some pool →
      pool.Sound ∧ pool.tickets = [])
    (starting : ∀ task ∈ system.tasks, ∃ program, program.Visiting ∧ task = Task.new program) :
    system.Occupied fun _ => .away where
  housed := {
    -- Nobody is inside, so there is nobody to compare.
    sound := fun id pool found => (vacant id pool found).1
    fits := fun _ _ _ _ inside => by simp at inside
    apart := fun _ _ _ _ _ _ _ inside => by simp at inside
    tenanted := fun id pool ticket found member => by simp [(vacant id pool found).2] at member }
  stands index task found := by
    obtain ⟨program, visiting, rfl⟩ := starting task (List.mem_of_getElem? found)
    exact Task.new_stands visiting
  unstarted _ _ := rfl

/-- Pools that nobody has used yet are occupied by nobody. -/
theorem occupied_of_unused (idle : system.tasks = [])
    (unused : ∀ id pool, system.state.topology.pool? id = some pool →
      pool = Pool.new pool.endpoint pool.config) : system.Occupied fun _ => .away := by
  refine occupied_of_vacant (fun id pool found => ?_) fun task member => ?_
  · rw [unused id pool found]
    -- A new pool is sound, and no ticket was issued.
    exact ⟨Pool.new_sound _ _, rfl⟩
  · simp [idle] at member

/-- What a task does leaves every pool that there was. -/
theorem lasting_onTask (system : System α) (index : Nat)
    {act : ClientState → Task α → Task α × ClientState}
    (lasts : ∀ task, Lasting system.state.topology (act system.state task).2.topology) :
    Lasting system.state.topology (system.onTask index act).state.topology := by
  unfold System.onTask
  split
  · exact .refl _
  · exact lasts _

/-- Pools last through one move. -/
theorem lasting_move (system : System α) (move : Move α) :
    Lasting system.state.topology (system.move move).state.topology := by
  cases move with
  | start program => exact .refl _
  | step index surroundings =>
    refine system.lasting_onTask index fun task => ?_
    -- Only a step of a running task changes the table.
    rcases task with ⟨_ | ⟨op, follow⟩, holdings⟩ | value | _
    · exact .refl _
    · exact .perform _ _ _
    · exact .refl _
    · exact .refl _
  | cancel index =>
    refine system.lasting_onTask index fun task => ?_
    cases task with
    | running rest holdings => exact .giveBack _ _
    | finished value => exact .refl _
    | cancelled => exact .refl _

/-- Pools last through every run. -/
theorem lasting_run (system : System α) (moves : List (Move α)) :
    Lasting system.state.topology (system.run moves).state.topology :=
  run_induction (fun later => Lasting system.state.topology later.state.topology) (.refl _)
    (fun later move lasted => lasted.trans (later.lasting_move move)) moves

/-- In an occupied system as many tasks hold a permit of a pool as the pool has holders. -/
theorem Occupied.countP_permit? (occupied : system.Occupied phase) {id : Nat} {pool : Pool}
    (found : system.state.topology.pool? id = some pool) :
    system.tasks.countP (fun task => (task.permit? id pool).isSome) = pool.holders.length := by
  have sound := occupied.housed.sound id pool found
  have permit_iff : ∀ index (inside : index < system.tasks.length) ticket,
      system.tasks[index].permit? id pool = some ticket ↔
        (pool.stage? ticket).isSome = true ∧
          ∃ ref stay, phase index = .inside ref ticket stay ∧ ref.id = id :=
    -- A task stands at its phase, which decides about its permit.
    fun index inside ticket => Task.permit?_eq_some_iff
      (occupied.stands index _ (List.getElem?_eq_getElem inside))
  have distinct : (system.tasks.filterMap (Task.permit? id pool)).Nodup := by
    refine List.pairwise_filterMap.2 (List.pairwise_iff_getElem.2 ?_)
    intro first second firstInside secondInside earlier ticket one other two same
    obtain ⟨_, ref, stay, here, ids⟩ := (permit_iff first firstInside ticket).1 one
    obtain ⟨_, further, _, there, named⟩ := (permit_iff second secondInside other).1 two
    -- Two tasks with one permit would share a place.
    have shared := occupied.housed.apart _ _ _ _ _ _ _ here (same ▸ there) (ids.trans named.symm)
    omega
  -- The tickets of those tasks are the tickets of the holders, each of them once.
  have members : ∀ ticket, ticket ∈ system.tasks.filterMap (Task.permit? id pool) ↔
      ticket ∈ pool.holders.map Prod.fst := by
    intro ticket
    rw [List.mem_filterMap]
    constructor
    · rintro ⟨task, member, held⟩
      -- The permit shows a stage, and whoever has one is listed among the holders.
      obtain ⟨index, inside, rfl⟩ := List.mem_iff_getElem.1 member
      obtain ⟨stage, _⟩ := (permit_iff index inside ticket).1 held
      obtain ⟨reached, staged⟩ := Option.isSome_iff_exists.1 stage
      obtain ⟨front, back, split, _⟩ := List.lookup_eq_some_iff.1 staged
      simp [split]
    · intro holds
      have held : (pool.stage? ticket).isSome = true := by
        obtain ⟨holder, member, same⟩ := List.mem_map.1 holds
        exact List.lookup_isSome_iff.2 ⟨holder, member, by simp [same]⟩
      -- A holder is one of the tasks, because nobody else is inside.
      obtain ⟨index, ref, stay, here, ids⟩ := occupied.housed.tenanted id pool ticket found
        (List.mem_append_left _ holds)
      have inside : index < system.tasks.length := by
        rcases Nat.lt_or_ge index system.tasks.length with inside | beyond
        · exact inside
        · simp [occupied.unstarted index (List.getElem?_eq_none beyond)] at here
      exact ⟨_, List.getElem_mem inside,
        (permit_iff index inside ticket).2 ⟨held, ref, stay, here, ids⟩⟩
  -- Two lists without repetition and with the same members are of the same length.
  rw [← List.length_filterMap_eq_countP,
    ((List.perm_ext_iff_of_nodup distinct sound.holders_distinct).2 members).length_eq,
    List.length_map]

/-- Tasks that share pools, in any order and cancelled anywhere, never have more connections than
a pool's maximum, never share one, hold as many permits as the pool counts, and find nothing idle
in a pool that was closed at any time before. -/
theorem pools_accounted {start : System α} (idle : start.tasks = [])
    (unused : ∀ id pool, start.state.topology.pool? id = some pool →
      pool = Pool.new pool.endpoint pool.config)
    (moves later : List (Move α))
    (visiting : ∀ program, .start program ∈ moves ++ later → program.Visiting)
    {id : Nat} {pool : Pool} (found : (start.run moves).state.topology.pool? id = some pool) :
    pool.idle.length + pool.checkedOut.length + pool.opening ≤ Pool.capacity pool.config ∧
      (pool.idle ++ pool.checkedOut).Nodup ∧
      pool.active =
        (start.run moves).tasks.countP (fun task => (task.permit? id pool).isSome) ∧
      ∃ after, ((start.run moves).run later).state.topology.pool? id = some after ∧
        after.config = pool.config ∧
        (pool.closed = true → after.closed = true ∧ after.idle = []) := by
  -- The invariant is carried to the moment in question and on to the later one.
  obtain ⟨phase, occupied⟩ := (occupied_of_unused idle unused).run fun program member =>
    visiting program (List.mem_append_left later member)
  obtain ⟨_, thereafter⟩ := occupied.run fun program member =>
    visiting program (List.mem_append_right moves member)
  -- The pool itself lasts, whatever the later moves do to it.
  obtain ⟨after, located, same, shut⟩ := lasting_run (start.run moves) later id pool found
  have sound := occupied.housed.sound id pool found
  have permits := sound.permits
  refine ⟨sound.bounded, sound.single, ?_, after, located, same, fun closed => ⟨shut closed, ?_⟩⟩
  -- Every holder counts for one permit that is in use.
  · rw [occupied.countP_permit? found]
    unfold Pool.active
    omega
  -- A pool that was closed stays so, and is sound, so nothing is idle in it.
  · exact ((thereafter.housed.sound id after located).shut (shut closed)).1

/-- A client that knows one node and may have one connection to it. -/
def contested : System Unit :=
  ⟨((ClientState.initial ⟨1, .ofSeconds 2⟩).perform (.register ⟨"127.0.0.1", 7000⟩) ()).2, []⟩

/-- Two callers want the only connection, and the pool is closed while the first one has it. -/
def rivalry : List (Move Unit) :=
  let pool : PoolRef := ⟨0, ⟨"127.0.0.1", 7000⟩⟩
  let visitor := Program.bind (Program.visit pool [.ping]) fun _ => .done ()
  let reachable := Op.surroundings (fun _ => .ok ()) fun _ _ => .ok (.simple "PONG")
  [.start visitor, .start visitor, .start (Program.closePool pool), .step 0 reachable,
    .step 1 reachable, .step 0 reachable, .step 0 reachable, .step 0 reachable, .step 2 reachable]

/-- The closed pool counts the one permit that is held, and drops the connection that comes back. -/
theorem pools_accounted_in_rivalry :
    ∃ pool after, (contested.run rivalry).state.topology.pool? 0 = some pool ∧
      pool.idle.length + pool.checkedOut.length + pool.opening ≤ Pool.capacity pool.config ∧
      pool.active = 1 ∧
      ((contested.run rivalry).run [.cancel 0]).state.topology.pool? 0 = some after ∧
      after.closed = true ∧ after.idle = [] := by
  have unused : ∀ id pool, contested.state.topology.pool? id = some pool →
      pool = Pool.new pool.endpoint pool.config := by
    intro id pool found
    -- Only the first place of the table has a pool.
    cases id with
    | zero =>
      have made : some (Pool.new ⟨"127.0.0.1", 7000⟩ ⟨1, .ofSeconds 2⟩) = some pool := found
      rw [← Option.some.inj made]
      rfl
    | succ id =>
      have missing : none = some pool := found
      cases missing
  have visiting : ∀ program, .start program ∈ rivalry ++ [.cancel 0] → program.Visiting := by
    intro program member
    simp only [rivalry, List.cons_append, List.nil_append, List.mem_cons, Move.start.injEq,
      reduceCtorEq, List.not_mem_nil, or_false] at member
    -- The three programs are the two callers and the one that closes the pool.
    rcases member with rfl | rfl | rfl
    · exact (Program.visit_visiting _ _).bind fun _ => rfl
    · exact (Program.visit_visiting _ _).bind fun _ => rfl
    · exact Program.closePool_visiting _
  have found : ((contested.run rivalry).state.topology.pool? 0).map
      (fun pool => (pool.active, pool.closed)) = some (1, true) := by
    decide +kernel
  obtain ⟨pool, present, seen⟩ := Option.map_eq_some_iff.1 found
  obtain ⟨held, closed⟩ := Prod.mk.inj seen
  -- The general theorem gives the rest at these two moments.
  obtain ⟨bounded, -, -, after, located, -, shut⟩ :=
    pools_accounted rfl unused rivalry [.cancel 0] visiting present
  exact ⟨pool, after, present, bounded, held, located, shut closed⟩

end System

end RedisCluster
