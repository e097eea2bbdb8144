import RedisCluster.Proofs.Pool.Config
import RedisCluster.Proofs.Pool.Permits

/-! Tasks as guests of pools: they have one place at a time, leave as many permits in use as they found,
and never wait if they come one after the other. -/

namespace RedisCluster

/-- A step on the way to a connection of a pool. -/
def Op.isAcquiring : Op → Bool
  | .enter _ | .awaitPermit _ _ | .takeIdle _ _ | .connect _ _ => true
  | _ => false

/-- A caller is told that a pool has no connection for it. -/
def Exchange.isExhausted : Exchange → Bool
  | ⟨.enter _, .error (.poolExhausted _ _)⟩
  | ⟨.awaitPermit _ _, .error (.poolExhausted _ _)⟩ => true
  | _ => false

/-- The task that a move is about, unless it starts one. -/
def Move.task? {α : Type} : Move α → Option Nat
  | .start _ => none
  | .step task _ | .cancel task => some task

namespace Program

variable {α : Type}

/-- A program that closes neither a pool nor the client. -/
abbrev ClosesNothing (program : Program α) : Prop :=
  program.Within fun op => op.closes = false

end Program

namespace Task

variable {α : Type}

/-- A task has finished or was cancelled. -/
def isOver : Task α → Bool
  | running _ _ => false
  | _ => true

/-- A task has one place in pools at most, and no connection while it is on its way to one. -/
def Single (state : ClientState) : Task α → Prop
  | running rest holdings => holdings.places.length ≤ 1 ∧
      ∀ op, rest.op? = some op → op.isAcquiring = true →
        ∀ place ∈ holdings.places, state.connection? place = none
  | _ => True

/-- What is left of a task closes neither a pool nor the client. -/
def ClosesNothing : Task α → Prop
  | running rest _ => rest.ClosesNothing
  | _ => True

/-- A task that is over has no place. -/
theorem Stands.away_of_isOver {task : Task α} {phase : Phase} (stands : task.Stands phase)
    (stopped : task.isOver = true) : phase = .away := by
  cases task with
  | running rest holdings => simp [isOver] at stopped
  | finished value => exact stands
  | cancelled => exact stands

end Task

namespace System

variable {α : Type} {system : System α} {phase : Nat → Phase} {index : Nat}

/-- Tasks run one after the other: each of them starts when all others are over. -/
def isSerial : System α → List (Move α) → Bool
  | _, [] => true
  | system, next :: rest =>
    (next.task?.isSome || system.tasks.all Task.isOver) && (system.move next).isSerial rest

/-- Tasks that run one after the other do so up to any moment. -/
theorem isSerial_of_append {front back : List (Move α)}
    (serial : system.isSerial (front ++ back) = true) : system.isSerial front = true := by
  -- The moves are peeled off from the front, as `isSerial` checks them.
  induction front generalizing system with
  | nil => rfl
  | cons next rest ih =>
    obtain ⟨starts, later⟩ := Bool.and_eq_true_iff.1 serial
    exact Bool.and_eq_true_iff.2 ⟨starts, ih later⟩

/-- Everyone in its place has one place at most, and no connection on the way to one. -/
theorem Occupied.single (occupied : system.Occupied phase) {task : Task α}
    (found : system.tasks[index]? = some task) : task.Single system.state := by
  cases task with
  | finished value => trivial
  | cancelled => trivial
  -- What the task holds is the place that it has, and its next step shows how far it has come
  -- there.
  | running rest holdings =>
    obtain ⟨orderly, same⟩ := occupied.stands index _ found
    refine ⟨?_, fun op next acquiring place member => ?_⟩
    · rw [same]
      cases phase index <;> simp [Phase.places]
    · cases rest with
      | done value => simp [Program.op?] at next
      | ask first follow =>
        obtain rfl := Option.some.inj next
        rw [same] at member
        -- Before it has a connection, a caller's stage shows none.
        have unconnected : ∀ ref ticket stay, phase index = .inside ref ticket stay →
            stay ≠ .connected → system.state.connection? (ref, ticket) = none := by
          intro ref ticket stay here early
          obtain ⟨pool, located, _, fits⟩ := occupied.housed.fits _ _ _ _ here
          -- The stage of a caller without a connection is nothing, granted or opening, and none of
          -- these has one.
          simp only [ClientState.connection?, located, Option.bind_some]
          cases stay with
          | waiting =>
            rcases fits with unheld | granted
            · simp [unheld]
            · simp [granted]
          | admitted => simp [show pool.stage? ticket = some .granted from fits]
          | opening => simp [show pool.stage? ticket = some .opening from fits]
          | connected => exact absurd rfl early
        generalize here : phase index = current at orderly member unconnected
        -- Which step it is tells how far the caller has got.
        cases first with
        | enter ref =>
          obtain ⟨_, leads, _⟩ := orderly (.ok 0)
          cases leads with
          | entered _ _ => simp [Phase.places] at member
          | elsewhere outside => simp [Op.isElsewhere] at outside
        | awaitPermit ref ticket =>
          obtain ⟨_, leads, _⟩ := orderly (.ok ())
          cases leads with
          | admitted _ _ =>
            rw [List.mem_singleton.1 member]
            exact unconnected _ _ _ rfl (by decide)
          | elsewhere outside => simp [Op.isElsewhere] at outside
        | takeIdle ref ticket =>
          obtain ⟨_, leads, _⟩ := orderly true
          cases leads with
          | reused _ _ =>
            rw [List.mem_singleton.1 member]
            exact unconnected _ _ _ rfl (by decide)
          | elsewhere outside => simp [Op.isElsewhere] at outside
        | connect ref ticket =>
          obtain ⟨_, leads, _⟩ := orderly (.ok ())
          cases leads with
          | opened _ _ =>
            rw [List.mem_singleton.1 member]
            exact unconnected _ _ _ rfl (by decide)
          | elsewhere outside => simp [Op.isElsewhere] at outside
        | _ => simp [Op.isAcquiring] at acquiring

/-- After the turn of a task as many permits would be in use without it as before. -/
theorem Occupied.turn (occupied : system.Occupied phase) {turn : Nat} {before after : Task α}
    {deed : Option Exchange} {last : ClientState} (found : system.tasks[turn]? = some before)
    (taken : Task.Turn system.state before deed after last) (stays : before.ClosesNothing) :
    ∃ next, (⟨last, system.tasks.set turn after⟩ : System α).Occupied (settle phase turn next) ∧
      after.ClosesNothing ∧
      (∀ exchange, deed = some exchange → (phase turn).Leads exchange.op exchange.answer next) ∧
      (deed = none → next = .away) ∧
      ∀ id, (last.topology.vacate next).inUse id =
        (system.state.topology.vacate (phase turn)).inUse id := by
  have housed := occupied.housed
  have stands := occupied.stands turn before found
  cases taken with
  -- The step leads on to the next place, for which the rest of the program is ready.
  | @took op next holdings choice =>
    obtain ⟨place, leads, orderly⟩ := stands.1 (system.state.perform op choice).1
    exact ⟨place, occupied.set found (housed.perform leads) ⟨orderly, leads.places stands.2⟩,
      stays.2 _, fun exchange same => Option.some.inj same ▸ leads, nofun,
      housed.inUse_perform leads stays.1⟩
  | @ended value holdings =>
    -- Its program is done, so the task has no place any more.
    have outside : phase turn = .away := stands.1
    have still := housed.still turn
    rw [outside] at still
    exact ⟨.away, occupied.set found still rfl, trivial, nofun, fun _ => rfl,
      fun id => by rw [outside]⟩
  -- Whoever gives up gives back what it held, and is away.
  | @gaveUp rest holdings =>
    refine ⟨.away, occupied.set found (housed.giveBack stands.2) rfl, trivial, nofun, fun _ => rfl,
      fun id => ?_⟩
    rw [Task.topology_giveBack stands.2]
    rfl

/-- A move that is about a task is its turn, or changes nothing. -/
theorem move_task_cases (system : System α) {next : Move α} (mine : next.task? = some index) :
    (∃ before deed after last, system.tasks[index]? = some before ∧
      Task.Turn system.state before deed after last ∧
      system.move next = ⟨last, system.tasks.set index after⟩) ∨
    system.move next = system := by
  cases next with
  | start program => simp [Move.task?] at mine
  | step other surroundings =>
    obtain rfl := Option.some.inj mine
    -- A running task takes a step or ends, and any other one does not change.
    rcases system.move_step_cases other surroundings with
      ⟨op, next, holdings, found, _, moved⟩ | ⟨value, holdings, found, _, moved⟩ | ⟨_, moved⟩
    · exact .inl ⟨_, _, _, _, found, .took (surroundings op), moved⟩
    · exact .inl ⟨_, _, _, _, found, .ended, moved⟩
    · exact .inr moved
  | cancel other =>
    obtain rfl := Option.some.inj mine
    cases found : system.tasks[other]? with
    | none => exact .inr (by simp [move, onTask, found])
    | some task =>
      -- A task that does not run is put back as it is.
      have same : system.tasks.set other task = system.tasks := by
        obtain ⟨inside, here⟩ := List.getElem?_eq_some_iff.1 found
        rw [← here, List.set_getElem_self]
      cases task with
      | running rest holdings =>
        exact .inl ⟨_, none, _, _, rfl, .gaveUp, by simp [move, onTask, found, Task.cancel]⟩
      | finished value => exact .inr (by simp [move, onTask, found, Task.cancel, same])
      | cancelled => exact .inr (by simp [move, onTask, found, Task.cancel, same])

/-- However long one task moves alone, as many permits would be in use without it as before. -/
theorem Occupied.alone (occupied : system.Occupied phase) {moves : List (Move α)}
    (mine : ∀ next ∈ moves, next.task? = some index)
    (stays : ∀ task, system.tasks[index]? = some task → task.ClosesNothing) :
    ∃ later, (system.run moves).Occupied later ∧ ∀ id,
      ((system.run moves).state.topology.vacate (later index)).inUse id =
        (system.state.topology.vacate (phase index)).inUse id := by
  -- The task's place changes from move to move, so the invariant is carried along with it.
  induction moves generalizing system phase with
  | nil => exact ⟨phase, occupied, fun _ => rfl⟩
  | cons next rest ih =>
    have others := fun move member => mine move (List.mem_cons_of_mem next member)
    rcases system.move_task_cases (mine next List.mem_cons_self) with
      ⟨before, deed, after, last, found, taken, moved⟩ | same
    -- One move changes nothing without the task, and what comes after it changes nothing either.
    · obtain ⟨place, settled, quiet, _, _, used⟩ :=
        occupied.turn found taken (stays before found)
      rw [← moved] at settled
      have inside := (List.getElem?_eq_some_iff.1 found).1
      obtain ⟨later, there, equal⟩ := ih settled others fun task located => by
        rw [moved, List.getElem?_set_self inside] at located
        exact Option.some.inj located ▸ quiet
      refine ⟨later, there, fun id => (equal id).trans ?_⟩
      rw [settle_same, moved]
      exact used id
    · -- Nothing has happened yet.
      obtain ⟨later, there, equal⟩ := ih occupied others stays
      have run : system.run (next :: rest) = system.run rest := by
        show (system.move next).run rest = system.run rest
        rw [same]
      rw [run]
      exact ⟨later, there, equal⟩

end System

/-- Which pools have room is a matter of their configurations. -/
theorem Topology.roomy_iff_throughout {topology : Topology} {room : Nat} :
    topology.Roomy room ↔ topology.Throughout fun config => room ≤ Pool.capacity config :=
  ⟨fun roomy => ⟨roomy.fresh, roomy.made⟩, fun all => ⟨all.fresh, all.made⟩⟩

/-- Who is let into a pool with permits to spare has one. -/
theorem ClientState.granted_enter {state : ClientState} {ref : PoolRef} {ticket : Ticket}
    (sound : ∀ id pool, state.topology.pool? id = some pool → pool.Sound)
    (spare : ∀ pool, state.topology.pool? ref.id = some pool → 0 < pool.available)
    (entered : (state.perform (.enter ref) ()).1 = .ok ticket) :
    (state.perform (.enter ref) ()).2.topology.Granted ref.id ticket := by
  cases found : state.topology.pool? ref.id with
  -- A pool that was never made lets nobody in.
  | none => simp [ClientState.perform, ClientState.onPool, found, ClientState.missing] at entered
  | some pool =>
    have spare := spare pool found
    -- The pool that is looked at is the one that was changed.
    simp only [ClientState.perform, ClientState.onPool_eq found] at entered ⊢
    refine ⟨_, ClientState.pool?_withPool found _, ?_⟩
    rcases pool.enter_cases with ⟨_, refused⟩ | ⟨_, exhausted, _⟩ | ⟨accepting, _, _⟩
    · simp [refused] at entered
    · omega
    · -- An open pool with a spare permit grants it on entering.
      have free : pool.Free pool.endpoint := ⟨sound _ _ found, accepting, rfl, spare⟩
      obtain ⟨given, attending⟩ := free.enter
      rw [given, Except.ok.injEq] at entered
      exact entered ▸ attending.fits

namespace System

variable {α : Type} {system : System α} {phase : Nat → Phase} {current : Nat}

/-- All tasks but one are over; where that one waits for a permit it has been granted. -/
structure Solo (system : System α) (phase : Nat → Phase) (current : Nat) : Prop where
  occupied : system.Occupied phase
  stopped : ∀ index task, index ≠ current → system.tasks[index]? = some task → task.isOver = true
  granted : ∀ ref ticket, phase current = .inside ref ticket .waiting →
    system.state.topology.Granted ref.id ticket
  roomy : system.state.topology.Roomy 1
  stays : ∀ task ∈ system.tasks, task.ClosesNothing

namespace Solo

/-- Nobody is inside a pool but the one task that is not over. -/
theorem away (solo : system.Solo phase current) {index : Nat} (other : index ≠ current) :
    phase index = .away := by
  -- A task that was never started is outside of all pools.
  cases found : system.tasks[index]? with
  | none => exact solo.occupied.unstarted index found
  | some task =>
    exact (solo.occupied.stands index task found).away_of_isOver
      (solo.stopped index task other found)

/-- While the one task is outside, every pool has all its permits. -/
theorem spare (solo : system.Solo phase current) (outside : phase current = .away) {id : Nat}
    {pool : Pool} (found : system.state.topology.pool? id = some pool) : 0 < pool.available := by
  have empty : pool.tickets = [] := by
    refine List.eq_nil_iff_forall_not_mem.2 fun ticket member => ?_
    obtain ⟨index, ref, stay, inside, _⟩ := solo.occupied.housed.tenanted id pool ticket found member
    -- A caller inside would be a task that is not over.
    by_cases same : index = current
    · simp [same, outside] at inside
    · simp [solo.away same] at inside
  have permits := (solo.occupied.housed.sound id pool found).permits
  have room := solo.roomy.made id pool found
  -- Nobody is inside, so all permits are available, and there is at least one.
  have holders : pool.holders = [] := List.map_eq_nil_iff.1 (List.append_eq_nil_iff.1 empty).1
  rw [holders, List.length_nil] at permits
  omega

/-- A turn of the one task leaves it with a permit wherever it waits. -/
theorem turn (solo : system.Solo phase current) {before after : Task α} {deed : Option Exchange}
    {last : ClientState} (found : system.tasks[current]? = some before)
    (taken : Task.Turn system.state before deed after last) :
    ∃ next, (⟨last, system.tasks.set current after⟩ : System α).Solo next current := by
  have stays := solo.stays before (List.mem_of_getElem? found)
  obtain ⟨place, occupied, quiet, leads, left, _⟩ := solo.occupied.turn found taken stays
  -- No turn changes a configuration, so every pool keeps its room.
  have roomy := (Topology.roomy_iff_throughout.1 solo.roomy).turn taken
  refine ⟨settle phase current place, occupied, fun index task other located => ?_,
    fun ref ticket inside => ?_, Topology.roomy_iff_throughout.2 roomy, fun task member => ?_⟩
  -- The other tasks are over as before.
  · rw [List.getElem?_set_ne (Ne.symm other)] at located
    exact solo.stopped index task other located
  · rw [settle_same] at inside
    subst inside
    cases taken with
    | @took op next holdings choice =>
      have leads := leads _ rfl
      have housed := solo.occupied.housed
      rcases leads.arrival with rfl | ⟨nowhere, waiting⟩
      · -- It has just come in from outside, where it found all permits.
        generalize answer : (system.state.perform (.enter ref) choice).1 = answered at leads
        generalize here : phase current = outside at leads
        cases leads with
        | elsewhere outside => simp [Op.isElsewhere] at outside
        | entered _ _ =>
          exact ClientState.granted_enter housed.sound (fun _ there => solo.spare here there) answer
      -- It waits as before, so its permit was granted before, and nobody has taken that away.
      · exact ClientState.staged_perform (solo.granted ref ticket waiting) housed.sound op choice
          fun _ _ about => by simp [nowhere] at about
    -- A task that has come to its end waits for nothing.
    | ended => cases left rfl
    | gaveUp => cases left rfl
  -- What is left of a task closes nothing, as all of it did not.
  · rcases List.mem_or_eq_of_mem_set member with old | rfl
    · exact solo.stays task old
    · exact quiet

/-- A task that starts when all others are over is the one that is not. -/
theorem start (solo : system.Solo phase current)
    (stopped : ∀ task ∈ system.tasks, task.isOver = true) {program : Program α}
    (visiting : program.Visiting) (stays : program.ClosesNothing) :
    (system.move (.start program)).Solo phase system.tasks.length := by
  refine ⟨solo.occupied.start visiting, fun index task other found => ?_, fun ref ticket inside => ?_,
    solo.roomy, fun task member => ?_⟩
  · simp only [move, List.getElem?_append] at found
    split at found
    · exact stopped task (List.mem_of_getElem? found)
    · -- Behind the old tasks there is only the new one.
      rw [List.getElem?_eq_none (by simp only [List.length_singleton]; omega)] at found
      cases found
  -- The new task has not come to any pool yet.
  · simp [solo.occupied.unstarted _ (List.getElem?_eq_none (Nat.le_refl _))] at inside
  · rcases List.mem_append.1 member with old | new
    · exact solo.stays task old
    · exact List.mem_singleton.1 new ▸ stays

/-- Whatever move comes next, all tasks but one are over, if only a task that starts finds all others
over. -/
theorem move (solo : system.Solo phase current) (next : Move α)
    (starts : ∀ program, next = .start program → program.Visiting ∧ program.ClosesNothing ∧
      ∀ task ∈ system.tasks, task.isOver = true) :
    ∃ phase current, (system.move next).Solo phase current := by
  cases about : next.task? with
  | none =>
    cases next with
    | start program =>
      obtain ⟨visiting, stays, stopped⟩ := starts program rfl
      exact ⟨phase, _, solo.start stopped visiting stays⟩
    | step index surroundings => cases about
    | cancel index => cases about
  | some index =>
    rcases system.move_task_cases about with ⟨before, deed, after, last, found, taken, moved⟩ | same
    · -- Only the one task that is not over takes turns.
      have mine : index = current := by
        refine Decidable.byContradiction fun other => ?_
        have stopped := solo.stopped index before other found
        cases taken <;> simp [Task.isOver] at stopped
      subst mine
      rw [moved]
      obtain ⟨next, settled⟩ := solo.turn found taken
      exact ⟨next, index, settled⟩
    -- The move was about nobody who still runs.
    · rw [same]
      exact ⟨phase, current, solo⟩

/-- Tasks that run one after the other are alone at every moment. -/
theorem run (solo : system.Solo phase current) {moves : List (Move α)} (serial : system.isSerial moves = true)
    (visits : ∀ program, .start program ∈ moves → program.Visiting ∧ program.ClosesNothing) :
    ∃ phase current, (system.run moves).Solo phase current := by
  -- Each move leaves one task at most that is not over, and it may be another one each time.
  induction moves generalizing system phase current with
  | nil => exact ⟨phase, current, solo⟩
  | cons next rest ih =>
    obtain ⟨starts, later⟩ := Bool.and_eq_true_iff.1 serial
    obtain ⟨_, _, moved⟩ := solo.move next fun program same => by
      subst same
      obtain ⟨visiting, stays⟩ := visits program List.mem_cons_self
      exact ⟨visiting, stays, List.all_eq_true.1 (by simpa [Move.task?] using starts)⟩
    exact ih moved later fun program member => visits program (List.mem_cons_of_mem _ member)

/-- The one task that is not over is never told that a pool is exhausted. -/
theorem served (solo : system.Solo phase current) {index : Nat}
    {surroundings : (op : Op) → op.Choice} {exchange : Exchange}
    (turn : system.turn? index surroundings = some exchange) : exchange.isExhausted = false := by
  obtain ⟨op, next, holdings, found, rfl, -⟩ := turn_cases turn
  -- Whoever takes a turn is not over.
  have mine : index = current := by
    refine Decidable.byContradiction fun other => ?_
    have stopped := solo.stopped index _ other found
    simp [Task.isOver] at stopped
  subst mine
  obtain ⟨_, leads, _⟩ := (solo.occupied.stands index _ found).1
    (system.state.perform op (surroundings op)).1
  cases op with
  | enter ref =>
    cases there : system.state.topology.pool? ref.id with
    | none => simp only [ClientState.perform, ClientState.onPool, there]; rfl
    | some pool =>
      simp only [ClientState.perform, ClientState.onPool_eq there]
      -- A pool refuses a caller only because it is closed.
      rcases pool.enter_cases with ⟨_, same⟩ | ⟨_, _, same⟩ | ⟨_, _, same⟩ <;> rw [same] <;> rfl
  | awaitPermit ref ticket =>
    have inside : phase index = .inside ref ticket .waiting := by
      -- Who waits for a permit is where the step leads from.
      generalize phase index = place at leads
      generalize (system.state.perform (.awaitPermit ref ticket)
        (surroundings (.awaitPermit ref ticket))).1 = answer at leads
      cases leads with
      | admitted _ _ => rfl
      | denied _ _ _ => rfl
      | elsewhere outside => simp [Op.isElsewhere] at outside
    obtain ⟨pool, there, granted⟩ := solo.granted ref ticket inside
    simp only [ClientState.perform, ClientState.onPool_eq there]
    -- Its permit has been granted, so its wait can fail only because the pool was closed.
    cases shut : pool.closed with
    | true => simp [Pool.awaitPermit, shut, Pool.closedError, Exchange.isExhausted]
    | false => simp [Pool.awaitPermit, shut, granted, Exchange.isExhausted]
  -- No other step can be told so.
  | _ => rfl

end Solo

end System

end RedisCluster
