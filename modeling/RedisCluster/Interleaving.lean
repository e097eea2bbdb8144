import RedisCluster.ClientState

/-! Tasks that share the state of one client: their steps interleave in any order, and a task may be
cancelled between any two of its steps. -/

namespace RedisCluster

/-- What a task holds from one step to the next and gives back when it is cancelled. -/
structure Holdings where
  /-- The places of the task in pools, whether it waits there or has a connection. -/
  places : List (PoolRef × Ticket) := []
  /-- The task is the one that is rediscovering the layout. -/
  rediscovering : Bool := false

namespace Holdings

/-- What is held once a place in a pool is lost. -/
def without (holdings : Holdings) (pool : PoolRef) (ticket : Ticket) : Holdings :=
  { holdings with places := holdings.places.filter fun place => place ≠ (pool, ticket) }

/-- What is held after a step; who waits or connects in vain has left the pool. -/
def after (holdings : Holdings) : (op : Op) → op.Answer → Holdings
  | .enter pool, .ok ticket => { holdings with places := (pool, ticket) :: holdings.places }
  | .awaitPermit pool ticket, .error _ => holdings.without pool ticket
  | .connect pool ticket, .error _ => holdings.without pool ticket
  | .leave pool ticket, _ => holdings.without pool ticket
  -- A caller that is turned away holds nothing, and one that holds it already keeps it.
  | .beginRediscovery, started =>
    { holdings with rediscovering := holdings.rediscovering || started }
  | .endRediscovery, _ => { holdings with rediscovering := false }
  | _, _ => holdings

/-- Leaves every pool and lets others rediscover the layout again. -/
def giveBack (holdings : Holdings) (state : ClientState) : ClientState :=
  -- Places are left in pools first, and the guard is given up last.
  let left := holdings.places.foldl
    (fun state place => (state.perform (.leave place.1 place.2) ()).2) state
  if holdings.rediscovering then (left.perform .endRediscovery ()).2 else left

end Holdings

/-- A task, with what is left of its program and what it holds. -/
inductive Task (α : Type) where
  | running (rest : Program α) (holdings : Holdings)
  | finished (value : α)
  | cancelled

namespace Task

variable {α : Type}

/-- A task that is about to start. -/
def new (program : Program α) : Task α :=
  running program {}

/-- Takes one step, of which the surroundings decide what they decide. -/
def step (surroundings : (op : Op) → op.Choice) (state : ClientState) :
    Task α → Task α × ClientState
  | running (.ask op next) holdings =>
    let (answer, after) := state.perform op (surroundings op)
    (running (next answer) (holdings.after op answer), after)
  -- The value has been returned, and nothing is held any more.
  | running (.done value) _ => (finished value, state)
  -- Who has finished or was cancelled does nothing.
  | task => (task, state)

/-- Stops for good where it is. -/
def cancel (state : ClientState) : Task α → Task α × ClientState
  | running _ holdings => (cancelled, holdings.giveBack state)
  -- There is nothing left to cancel.
  | task => (task, state)

end Task

/-- A client with the tasks that share it, in the order in which they were started. -/
structure System (α : Type) where
  state : ClientState
  tasks : List (Task α) := []

/-- What happens next. -/
inductive Move (α : Type) where
  | start (program : Program α)
  | step (task : Nat) (surroundings : (op : Op) → op.Choice)
  | cancel (task : Nat)

namespace System

variable {α : Type}

/-- Lets one task act; a task that was never started does nothing. -/
def onTask (system : System α) (index : Nat)
    (act : ClientState → Task α → Task α × ClientState) : System α :=
  match system.tasks[index]? with
  | none => system
  | some task =>
    let (task, state) := act system.state task
    { state, tasks := system.tasks.set index task }

/-- The system after one move. -/
def move (system : System α) : Move α → System α
  | .start program => { system with tasks := system.tasks ++ [Task.new program] }
  | .step index surroundings => system.onTask index (Task.step surroundings)
  | .cancel index => system.onTask index Task.cancel

/-- The system after some moves in a row. -/
def run (system : System α) (moves : List (Move α)) : System α :=
  moves.foldl move system

/-- What holds at first and is kept by every move holds at every moment. -/
theorem run_induction (invariant : System α → Prop) {system : System α}
    (first : invariant system)
    (kept : ∀ system move, invariant system → invariant (system.move move))
    (moves : List (Move α)) : invariant (system.run moves) := by
  induction moves generalizing system with
  | nil => exact first
  | cons next rest ih => exact ih (kept system next first)

end System

end RedisCluster
