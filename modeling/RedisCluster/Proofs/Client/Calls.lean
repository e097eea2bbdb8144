import RedisCluster.Proofs.Client.Jobs
import RedisCluster.Proofs.Dispatcher.Errands
import RedisCluster.Proofs.Pool.Visits

/-! Calls of a client and the pools that they use: a call holds one connection at a time and gives back
all that it has taken, however it ends. -/

namespace RedisCluster

namespace System

variable {α : Type}

/-- Whoever is inside a pool, with a permit or waiting for one, is another task, which still runs. -/
def LeftBy (system : System α) (index : Nat) : Prop :=
  ∀ id pool, system.state.topology.pool? id = some pool →
    pool.active = pool.holders.length ∧
      ∀ ticket ∈ pool.tickets, ∃ other rest holdings ref, other ≠ index ∧
        system.tasks[other]? = some (.running rest holdings) ∧
          (ref, ticket) ∈ holdings.places ∧ ref.id = id

/-- A task that is over has left all pools. -/
theorem Occupied.leftBy {system : System α} {phase : Nat → Phase} (occupied : system.Occupied phase)
    {index : Nat} {task : Task α} (found : system.tasks[index]? = some task)
    (stopped : task.isOver = true) : system.LeftBy index := by
  intro id pool present
  -- The permits that are out are held by someone, and every ticket in the pool has a tenant.
  have permits := (occupied.housed.sound id pool present).permits
  refine ⟨by unfold Pool.active; omega, fun ticket member => ?_⟩
  obtain ⟨other, ref, stay, inside, ids⟩ := occupied.housed.tenanted id pool ticket present member
  have elsewhere : other ≠ index := by
    rintro rfl
    -- If the tenant were the task itself, its phase would be both inside and away.
    rw [(occupied.stands other task found).away_of_isOver stopped] at inside
    cases inside
  -- Whoever is inside was started, and is not over.
  cases located : system.tasks[other]? with
  | none => simp [occupied.unstarted other located] at inside
  | some tenant =>
    have stands := occupied.stands other tenant located
    cases tenant with
    | running rest holdings =>
      refine ⟨other, rest, holdings, ref, elsewhere, located, ?_, ids⟩
      rw [stands.2, inside]
      exact List.mem_singleton_self _
    | finished value => simp [stands.away_of_isOver rfl] at inside
    | cancelled => simp [stands.away_of_isOver rfl] at inside

end System

namespace Job

/-- Every job uses pools in order. -/
theorem program_visiting (client : Client) (job : Job) : (job.program client).Visiting := by
  cases job with
  | execute command =>
    -- A closed client answers at once. An open one hands the command to its dispatcher.
    have executed : (client.execute command).Visiting := by
      intro closed
      refine ⟨_, .elsewhere rfl, ?_⟩
      cases closed with
      | true => rfl
      | false => exact client.dispatcher.execute_visiting command
    exact executed.bind fun _ => rfl
  | dispatch command => exact (client.dispatcher.execute_visiting command).bind fun _ => rfl
  | rediscover preferred =>
    -- A rediscovery only uses connections that it has just been given, and gives each one back.
    exact (Discovery.rediscover_errand _ preferred).visiting.bind fun _ => rfl
  | refresh =>
    have refreshed : client.refreshTopology.Visiting := by
      intro closed
      refine ⟨_, .elsewhere rfl, ?_⟩
      cases closed with
      | true => rfl
      -- The flag is looked up first, and only an open client starts a pass.
      | false =>
        refine (Discovery.rediscover_errand _ none).visiting.bind fun found => ?_
        cases found <;> rfl
    exact refreshed.bind fun _ => rfl
  | close => exact fun _ => ⟨_, .elsewhere rfl, rfl⟩

/-- No job closes anything but the one that closes the client. -/
theorem program_closesNothing (client : Client) {job : Job} (stays : job ≠ .close) :
    (job.program client).ClosesNothing := by
  -- A rediscovery registers, assigns and rebuilds, but never closes anything.
  have rediscovered : ∀ preferred, (Discovery.rediscover client.dispatcher.translator
      preferred).ClosesNothing := fun preferred =>
    (Discovery.rediscover_business _ preferred).mono fun _ => Op.closes_of_business
  have dispatched := client.dispatcher.execute_closes_nothing
  cases job with
  | execute command =>
    have executed : (client.execute command).ClosesNothing := by
      refine ⟨rfl, fun closed => ?_⟩
      cases closed with
      | true => trivial
      | false => exact dispatched command
    exact executed.bind fun _ => trivial
  | dispatch command => exact (dispatched command).bind fun _ => trivial
  | rediscover preferred => exact (rediscovered preferred).bind fun _ => trivial
  | refresh =>
    have refreshed : client.refreshTopology.ClosesNothing := by
      refine ⟨rfl, fun closed => ?_⟩
      cases closed with
      | true => trivial
      | false =>
        refine (rediscovered none).bind fun found => ?_
        cases found <;> trivial
    exact refreshed.bind fun _ => trivial
  | close => exact absurd rfl stays

end Job

namespace Client

variable {client : Client} {start : System Outcome}

/-- A call never holds one pooled connection on its way to another, and has left all pools once it is
over, in whatever way: by a reply, an error or by being cancelled at any of its steps, and whatever
other tasks there are. If it is the only one that moved meanwhile, as many permits of every pool are in
use as before. And calls that run one after the other, some of them cancelled perhaps, are never told
that a pool is exhausted, if every pool has a connection at all. -/
theorem calls_leave_pools (idle : start.tasks = [])
    (unused : ∀ id pool, start.state.topology.pool? id = some pool →
      pool = Pool.new pool.endpoint pool.config) :
    (∀ (job : Job) (earlier later : List (Move Outcome)), job ≠ .close →
      (∀ program, .start program ∈ earlier ++ later → program.Visiting) →
      let before := start.run earlier
      let index := before.tasks.length
      let after := before.run (.start (job.program client) :: later)
      ∀ task, after.tasks[index]? = some task →
        task.Single after.state ∧
        (task.isOver = true → after.LeftBy index ∧
          ((∀ next ∈ later, next.task? = some index) →
            ∀ id, after.state.topology.inUse id = before.state.topology.inUse id))) ∧
    ∀ moves : List (Move Outcome), start.state.topology.Roomy 1 →
      (∀ program, .start program ∈ moves →
        ∃ job : Job, job ≠ .close ∧ program = job.program client) →
      start.isSerial moves = true →
      ∀ index, ∀ exchange ∈ start.past index moves, exchange.isExhausted = false := by
  -- Nobody has used the pools, so whoever is inside one has come there by the moves to follow.
  have vacant := System.occupied_of_unused idle unused
  refine ⟨fun job earlier later stays visiting => ?_, fun moves roomy jobs serial index exchange did => ?_⟩
  · intro before index after task found
    obtain ⟨phase, occupied⟩ := vacant.run fun program member =>
      visiting program (List.mem_append_left later member)
    have started := occupied.start (job.program_visiting client)
    -- The same invariant holds later, when the call itself is among the tasks.
    obtain ⟨_, occupied_later⟩ := started.run fun program member =>
      visiting program (List.mem_append_right earlier member)
    refine ⟨occupied_later.single found, fun stopped => ⟨occupied_later.leftBy found stopped,
      fun alone id => ?_⟩⟩
    -- The call was outside when it started, and it is outside now that it is over.
    have outside : phase index = .away :=
      occupied.unstarted index (List.getElem?_eq_none (Nat.le_refl _))
    -- If it moves alone, the permits in use change only by what its own place counts for.
    obtain ⟨place, settled, used⟩ := started.alone alone fun other located => by
      have new : other = Task.new (job.program client) := by
        simpa [System.move, index, before] using located.symm
      exact new ▸ job.program_closesNothing client stays
    have gone : place index = .away := (settled.stands index task found).away_of_isOver stopped
    -- Away before and away now, so both places count for nothing.
    have same := used id
    rw [gone, outside] at same
    exact same
  -- What a task did is what it did at one moment of the moves, with some surroundings.
  · obtain ⟨front, back, whole⟩ := List.append_of_mem did
    obtain ⟨earlier, surroundings, later, rfl, -, turn⟩ := System.exists_moment whole
    have outside : ∀ ref ticket, Phase.away ≠ .inside ref ticket .waiting := by simp
    -- At the start nobody is inside any pool, so nobody is in the way of the first call.
    have solo : start.Solo (fun _ => .away) 0 :=
      ⟨vacant, fun _ _ _ found => by simp [idle] at found,
        fun ref ticket inside => absurd inside (outside ref ticket), roomy,
        fun _ member => by simp [idle] at member⟩
    -- Up to that moment the calls have come one after the other.
    obtain ⟨_, _, alone⟩ := solo.run (System.isSerial_of_append serial) fun program member => by
      obtain ⟨job, stays, rfl⟩ := jobs program (List.mem_append_left _ member)
      exact ⟨job.program_visiting client, job.program_closesNothing client stays⟩
    exact alone.served turn

/-- A client that knows one node and may have one connection to it. -/
def frugal : System Outcome :=
  ⟨((ClientState.initial ⟨1, .ofSeconds 2⟩).perform
    (.assign [3] ⟨"127.0.0.1", 7000⟩) ()).2, []⟩

/-- It has one pool. -/
theorem frugal_pool {id : Nat} {pool : Pool} (found : frugal.state.topology.pool? id = some pool) :
    pool = Pool.new ⟨"127.0.0.1", 7000⟩ ⟨1, .ofSeconds 2⟩ := by
  cases id with
  | zero => exact (Option.some.inj found).symm
  | succ id =>
    have missing : none = some pool := found
    cases missing

/-- Nobody has used that pool yet. -/
theorem frugal_unused {id : Nat} {pool : Pool} (found : frugal.state.topology.pool? id = some pool) :
    pool = Pool.new pool.endpoint pool.config := by
  rw [frugal_pool found]
  rfl

/-- A client's command for the one node. -/
def reading : Program Outcome :=
  Job.program ⟨Dispatcher.new .identity 5⟩ (.dispatch (.get (Utf8.encode "raw")))

/-- The turns of a task with a node that answers. -/
def turns (task count : Nat) : List (Move Outcome) :=
  List.replicate count
    (.step task (Op.surroundings (fun _ => .ok ()) fun _ _ => .ok (.simple "OK")))

/-- The turns of a command until it waits for its reply, when it is cancelled. -/
def interruption : List (Move Outcome) :=
  turns 0 7 ++ [.cancel 0]

/-- A command that is cancelled while it waits for its reply leaves the permit of the only connection to
the next one, which does not wait for it. -/
theorem interrupted_call_leaves_pool :
    (frugal.run (.start reading :: turns 0 7)).state.topology.inUse 0 = 1 ∧
      (frugal.run (.start reading :: interruption)).state.topology.inUse 0 =
        frugal.state.topology.inUse 0 ∧
      (frugal.run (.start reading :: interruption ++ .start reading :: turns 1 12)).outcome? 1 =
        some (.replied (.ok (.simple "OK"))) ∧
      ∀ exchange ∈ frugal.past 1 (.start reading :: interruption ++ .start reading :: turns 1 12),
        exchange.isExhausted = false := by
  have roomy : frugal.state.topology.Roomy 1 := by
    refine ⟨by decide, fun id pool found => ?_⟩
    rw [frugal_pool found]
    decide
  have jobs : ∀ program, .start program ∈
      .start reading :: interruption ++ .start reading :: turns 1 12 →
      ∃ job : Job, job ≠ .close ∧ program = job.program ⟨Dispatcher.new .identity 5⟩ := by
    intro program member
    -- Only the first move of each half starts a program, and it is the same command both times.
    refine ⟨.dispatch (.get (Utf8.encode "raw")), nofun, ?_⟩
    simpa [interruption, turns, reading] using member
  have serial : frugal.isSerial (.start reading :: interruption ++ .start reading :: turns 1 12) =
      true := by
    decide +kernel
  obtain ⟨single, served⟩ := @calls_leave_pools ⟨Dispatcher.new .identity 5⟩ frugal rfl
    fun _ _ => frugal_unused
  -- The interrupted call is the only task that moves, and is over in the end.
  have alone : ∀ next ∈ interruption, Move.task? next = some 0 := by decide +kernel
  have visiting : ∀ program, .start program ∈ interruption → program.Visiting := by
    intro program member
    simp [interruption, turns] at member
  have ended : (frugal.run (.start reading :: interruption)).tasks[0]?.map Task.isOver =
      some true := by
    decide +kernel
  obtain ⟨task, found, stopped⟩ := Option.map_eq_some_iff.1 ended
  -- The part of the theorem about a single call is applied to the interrupted one.
  have left := single (.dispatch (.get (Utf8.encode "raw"))) [] interruption nofun visiting task
  have first : frugal.tasks.length = 0 := rfl
  have same : frugal.run [] = frugal := rfl
  have named : Job.program ⟨Dispatcher.new .identity 5⟩ (.dispatch (.get (Utf8.encode "raw"))) =
      reading := rfl
  simp only [same, first, named] at left
  exact ⟨by decide +kernel, ((left found).2 stopped).2 alone 0, by decide +kernel,
    served _ roomy jobs serial 1⟩

end Client

end RedisCluster
