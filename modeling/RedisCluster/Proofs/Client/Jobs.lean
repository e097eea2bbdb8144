import RedisCluster.Client
import RedisCluster.Proofs.Client.Rules
import RedisCluster.Proofs.Program.History

/-! What a client is asked to do, and what holds at every moment while it does any of that for any
number of callers at once. -/

namespace RedisCluster

/-- What a client may be asked to do: to run a command, by way of its dispatcher alone or not, to
rediscover the layout or reload it, and to close. -/
inductive Job where
  | execute (command : Command)
  | dispatch (command : Command)
  | rediscover (preferred : Option PoolRef)
  | refresh
  | close

/-- What may come of a job. -/
inductive Outcome where
  | replied (result : Except ClientError Frame)
  | rediscovered (rediscovery : Rediscovery)
  | refreshed (result : Except ClientError Unit)
  | closed (first : Bool)
deriving DecidableEq

namespace Job

/-- The program of a job. -/
def program (client : Client) : Job → Program Outcome
  | execute command => do return .replied (← client.execute command)
  | dispatch command => do return .replied (← client.dispatcher.execute command)
  | rediscover preferred => do
    return .rediscovered (← Discovery.rediscover client.dispatcher.translator preferred)
  | refresh => do return .refreshed (← client.refreshTopology)
  | close => do return .closed (← Program.close)

/-- The command that a job runs, if it runs one. -/
def command? : Job → Option Command
  | execute command | dispatch command => some command
  | rediscover _ | refresh | close => none

/-- A job keeps to rules that its command and its rediscovery keep to, if it may ask whether the client is
closed and may close it. -/
theorem conducts_of_parts (client : Client) {rules : Rules} {job : Job}
    (asks : ∀ past, rules.allowed past .isClosed) (closes : ∀ past, rules.allowed past .close)
    (dispatches : ∀ command, job.command? = some command → ∀ past,
      (client.dispatcher.execute command).Conducts rules (fun _ _ => True) past)
    (rediscovers : ∀ preferred, job = .rediscover preferred ∨ preferred = none → ∀ past,
      (Discovery.rediscover client.dispatcher.translator preferred).Conducts rules
        (fun _ _ => True) past) (past : Trace) :
    (job.program client).Conducts rules (fun _ _ => True) past := by
  cases job with
  | execute command =>
    have executed : (client.execute command).Conducts rules (fun _ _ => True) past := by
      -- A closed client answers from the flag alone, and an open one leaves the work to its
      -- dispatcher.
      refine ⟨asks past, fun closed _ => ?_⟩
      cases closed with
      | true => trivial
      | false => exact dispatches command rfl _
    exact executed.bind fun _ _ _ => trivial
  | dispatch command => exact (dispatches command rfl past).bind fun _ _ _ => trivial
  | rediscover preferred =>
    exact (rediscovers preferred (.inl rfl) past).bind fun _ _ _ => trivial
  | refresh =>
    -- A reload is a rediscovery that prefers no node.
    have refreshed : client.refreshTopology.Conducts rules (fun _ _ => True) past := by
      refine ⟨asks past, fun closed _ => ?_⟩
      cases closed with
      | true => trivial
      | false =>
        refine (rediscovers none (.inr rfl) _).bind fun _ found _ => ?_
        cases found <;> trivial
    exact refreshed.bind fun _ _ _ => trivial
  | close => exact ⟨closes past, fun _ _ => trivial⟩

/-- A job that is over has ended the rediscovery that it has begun, and one that was refused a
rediscovery has done nothing else. -/
def Settled (past : Trace) (outcome : Outcome) : Prop :=
  past.isRediscovering = false ∧
    (outcome = .rediscovered .alreadyInProgress → past = [⟨.beginRediscovery, false⟩])

/-- Every job keeps to the rules. -/
theorem program_conducts (client : Client) (job : Job) :
    (job.program client).Conducts (Client.rules client.dispatcher.translator) Settled [] := by
  -- A job starts with nothing behind it, so no rediscovery of its own is under way.
  have idle : Trace.isRediscovering [] = false := rfl
  cases job with
  | execute command =>
    have executed : (client.execute command).Conducts (Client.rules client.dispatcher.translator)
        (fun now _ => now.isRediscovering = false) [] := by
      -- Asking for the flag changes neither what was heard nor whether a rediscovery is under way.
      refine Client.ask_conducts rfl fun closed still => ?_
      cases closed with
      | true => exact still.rediscovering.trans idle
      | false => exact Client.dispatch_conducts (still.rediscovering.trans idle) command
    exact executed.bind fun now result idle => ⟨idle, nofun⟩
  | dispatch command =>
    exact (Client.dispatch_conducts idle command).bind fun now result idle => ⟨idle, nofun⟩
  | rediscover preferred =>
    -- Only a pass that was refused is told so, and that is its first and only step.
    refine (Client.rediscover_conducts idle preferred).bind fun now found ⟨idle, refused⟩ => ?_
    exact ⟨idle, fun same => refused (Outcome.rediscovered.inj same)⟩
  | refresh =>
    have refreshed : client.refreshTopology.Conducts (Client.rules client.dispatcher.translator)
        (fun now _ => now.isRediscovering = false) [] := by
      refine Client.ask_conducts rfl fun closed still => ?_
      cases closed with
      | true => exact still.rediscovering.trans idle
      | false =>
        refine (Client.rediscover_conducts (still.rediscovering.trans idle) none).bind
          fun now found ⟨idle, _⟩ => ?_
        -- A reload says of the pass that it found a layout or not, which is no outcome of a
        -- rediscovery.
        cases found <;> exact idle
    exact refreshed.bind fun now result idle => ⟨idle, nofun⟩
  -- Closing is the whole job, so nothing comes before it.
  | close => exact ⟨rfl, fun first _ => ⟨Trace.isRediscovering_concat [] rfl first, nofun⟩⟩

end Job

namespace Client

variable {client : Client} {state : ClientState} {moves back : List (Move Outcome)}

/-- The jobs of a client keep to its rules while they go on, and what every routine step keeps goes on
holding. -/
theorem abides_run {system : System Outcome} {past : Nat → Trace} (invariant : ClientState → Prop)
    (jobs : ∀ program, .start program ∈ moves → ∃ job : Job, program = job.program client)
    (kept : ∀ (state : ClientState) (op : Op) (choice : op.Choice), op.isRoutine = true →
      invariant state → invariant (state.perform op choice).2)
    (each : system.Each
      (fun past task => task.Abides (rules client.dispatcher.translator) Job.Settled past) past)
    (holds : invariant system.state) :
    ((system.run moves).Each
        (fun past task => task.Abides (rules client.dispatcher.translator) Job.Settled past)
        fun index => past index ++ system.past index moves) ∧
      invariant (system.run moves).state := by
  -- Nothing is granted to the jobs, so their turns keep to the rules in any state.
  refine each.run holds (fun program member => ?_) fun turn holds abides =>
    ⟨turn.abides (fun _ _ _ => trivial) abides, ?_⟩
  -- The turn that starts a job leaves it with an empty past.
  · obtain ⟨job, rfl⟩ := jobs program member
    exact job.program_conducts client
  · cases turn with
    | took choice => exact kept _ _ choice (routine_of_allowed abides.1) holds
    | ended => exact holds
    -- A task that is cancelled leaves its pools and ends its rediscovery, which is routine.
    | gaveUp =>
      exact Holdings.giveBack_keeps (fun state pool ticket => kept state _ () rfl)
        (fun state => kept state _ () rfl) _ holds

/-- Jobs that take their steps in any order keep to the rules. -/
theorem each_abides (state : ClientState)
    (jobs : ∀ program, .start program ∈ moves → ∃ job : Job, program = job.program client) :
    (({ state } : System Outcome).run moves).Each
      (fun past task => task.Abides (rules client.dispatcher.translator) Job.Settled past)
      fun index => ({ state } : System Outcome).past index moves :=
  (abides_run (fun _ => True) jobs (fun _ _ _ _ _ => trivial) (.of_vacant state)
    trivial).1

/-- Whenever a job takes a step, the rules allow it. -/
theorem allowed_of_turn
    (jobs : ∀ program, .start program ∈ moves → ∃ job : Job, program = job.program client)
    {index : Nat} {surroundings : (op : Op) → op.Choice} {exchange : Exchange}
    (turn : (({ state } : System Outcome).run moves).turn? index surroundings = some exchange) :
    (rules client.dispatcher.translator).allowed
      (({ state } : System Outcome).past index moves) exchange.op := by
  -- Its task still runs at the step, and the rules allow the step that it runs next.
  obtain ⟨op, next, holdings, found, rfl, -⟩ := System.turn_cases turn
  have conducts := (each_abides state jobs).holds index _ found
  exact conducts.1

/-- What every routine step keeps goes on holding, whatever jobs there are. -/
theorem run_keeps (invariant : ClientState → Prop) (front : List (Move Outcome))
    (jobs : ∀ program, .start program ∈ front ++ back → ∃ job : Job, program = job.program client)
    (kept : ∀ (state : ClientState) (op : Op) (choice : op.Choice), op.isRoutine = true →
      invariant state → invariant (state.perform op choice).2)
    (holds : invariant (({ state } : System Outcome).run front).state) :
    invariant (({ state } : System Outcome).run (front ++ back)).state := by
  -- The jobs that were started in front are still under way, each where its past has brought it.
  have each := each_abides state fun program member => jobs program (List.mem_append_left _ member)
  have later : ∀ program, .start program ∈ back → ∃ job : Job, program = job.program client :=
    fun program member => jobs program (List.mem_append_right _ member)
  rw [System.run_append]
  exact (abides_run invariant later kept each holds).2

/-- A consistent table stays consistent, whatever jobs there are. -/
theorem run_consistent
    (jobs : ∀ program, .start program ∈ moves → ∃ job : Job, program = job.program client)
    (consistent : state.topology.Consistent) :
    (({ state } : System Outcome).run moves).state.topology.Consistent :=
  -- Consistency is kept by each step of its own, so it is an invariant to run with.
  run_keeps (fun state => state.topology.Consistent) [] jobs
    (fun state op choice routine consistent => ClientState.consistent_perform consistent
      (fun pool same => by simp [same, Op.isRoutine] at routine) choice) consistent

end Client

end RedisCluster
