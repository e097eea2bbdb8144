import RedisCluster.Interleaving
import RedisCluster.Program.Trace

/-! Callers that use pools in order: a place is taken, used and given up again, one at a time. -/

namespace RedisCluster

/-- How far a caller has got, as it knows from the answers to its own steps. -/
inductive Stay where
  | waiting
  | admitted
  | opening
  | connected
deriving Repr, DecidableEq

/-- Where a caller is: outside all pools, or inside one. -/
inductive Phase where
  | away
  | inside (pool : PoolRef) (ticket : Ticket) (stay : Stay)
deriving Repr, DecidableEq

namespace Op

/-- A step that concerns no place in a pool. -/
def isElsewhere : Op → Bool
  | enter _ | awaitPermit _ _ | takeIdle _ _ | connect _ _ | leave _ _ => false
  | send (.pooled _ _) _ | answer (.pooled _ _) _ => false
  | _ => true

end Op

namespace Phase

/-- The places in pools that a caller has. -/
def places : Phase → List (PoolRef × Ticket)
  -- Outside there is nothing to give back.
  | away => []
  | inside pool ticket _ => [(pool, ticket)]

/-- Where a caller is that has a connection. -/
def ofLease : Lease → Phase
  | .pooled pool ticket => inside pool ticket .connected
  | .direct _ _ => away

/-- Where a caller is that asked for a connection. -/
def ofAcquired : Except ClientError Lease → Phase
  | .ok lease => ofLease lease
  | .error _ => away

/-- Where a caller gets by a step and the answer to it. A caller enters when it is away, goes on with
its own ticket only, and may leave at any point. -/
inductive Leads : Phase → (op : Op) → op.Answer → Phase → Prop where
  -- Only an entry that succeeds gives the caller a place.
  | entered (pool : PoolRef) (ticket : Ticket) :
      Leads away (.enter pool) (.ok ticket) (inside pool ticket .waiting)
  | refused (pool : PoolRef) (error : ClientError) : Leads away (.enter pool) (.error error) away
  | admitted (pool : PoolRef) (ticket : Ticket) :
      Leads (inside pool ticket .waiting) (.awaitPermit pool ticket) (.ok ())
        -- The permit comes, or the caller is outside again.
        (inside pool ticket .admitted)
  | denied (pool : PoolRef) (ticket : Ticket) (error : ClientError) :
      Leads (inside pool ticket .waiting) (.awaitPermit pool ticket) (.error error) away
  -- It has a connection, or must open one.
  | reused (pool : PoolRef) (ticket : Ticket) :
      Leads (inside pool ticket .admitted) (.takeIdle pool ticket) true (inside pool ticket .connected)
  | opening (pool : PoolRef) (ticket : Ticket) :
      Leads (inside pool ticket .admitted) (.takeIdle pool ticket) false
        (inside pool ticket .opening)
  | opened (pool : PoolRef) (ticket : Ticket) :
      Leads (inside pool ticket .opening) (.connect pool ticket) (.ok ()) (inside pool ticket .connected)
  | failed (pool : PoolRef) (ticket : Ticket) (error : ClientError) :
      Leads (inside pool ticket .opening) (.connect pool ticket) (.error error) away
  -- A request and its answer leave it where it is.
  | sent (pool : PoolRef) (ticket : Ticket) (request : Request) :
      Leads (inside pool ticket .connected) (.send (.pooled pool ticket) request) ()
        (inside pool ticket .connected)
  | answered (pool : PoolRef) (ticket : Ticket) (request : Request)
      (answer : Except ClientError Frame) :
      Leads (inside pool ticket .connected) (.answer (.pooled pool ticket) request) answer
        (inside pool ticket .connected)
  -- It may leave from wherever it has come to.
  | left (pool : PoolRef) (ticket : Ticket) (stay : Stay) :
      Leads (inside pool ticket stay) (.leave pool ticket) () away
  | elsewhere {phase : Phase} {op : Op} {answer : op.Answer} (outside : op.isElsewhere = true) :
      Leads phase op answer phase

/-- What a caller gives back when it is cancelled is the place where it is. -/
theorem Leads.places {phase next : Phase} {op : Op} {answer : op.Answer} {holdings : Holdings}
    (leads : phase.Leads op answer next) (same : holdings.places = phase.places) :
    (holdings.after op answer).places = next.places := by
  cases leads with
  | elsewhere outside =>
    -- Steps elsewhere leave the places alone, whatever else they change.
    rw [← same]
    cases op <;> first | rfl | simp [Op.isElsewhere] at outside
  -- The place is as before, unless the caller comes in or goes out.
  | entered pool ticket => simp [Holdings.after, same, Phase.places]
  | refused pool error => exact same
  | admitted pool ticket => exact same
  | reused pool ticket => exact same
  | opening pool ticket => exact same
  | opened pool ticket => exact same
  | sent pool ticket request => exact same
  | answered pool ticket request answer => exact same
  | denied pool ticket error => simp [Holdings.after, Holdings.without, same, Phase.places]
  | failed pool ticket error => simp [Holdings.after, Holdings.without, same, Phase.places]
  | left pool ticket stay => simp [Holdings.after, Holdings.without, same, Phase.places]

end Phase

namespace Program

variable {α β : Type}

/-- Whatever the answers, a program uses pools in order and ends where its value says. -/
def Orderly (goal : α → Phase) : Program α → Phase → Prop
  | done value, phase => phase = goal value
  | ask op next, phase =>
    ∀ answer, ∃ after, phase.Leads op answer after ∧ Orderly goal (next answer) after

/-- A program that uses pools in order and has no place in any of them before and after. -/
abbrev Visiting (program : Program α) : Prop :=
  program.Orderly (fun _ => .away) .away

/-- Programs in a row use pools in order if each one starts where the last one ended. -/
theorem Orderly.bind {goal : β → Phase} {middle : α → Phase} {program : Program α}
    {follow : α → Program β} {phase : Phase} (first : program.Orderly middle phase)
    (second : ∀ value, (follow value).Orderly goal (middle value)) :
    (bind program follow).Orderly goal phase := by
  induction program generalizing phase with
  | done value =>
    -- The first program is over, so the second one starts where its value says.
    have here : phase = middle value := first
    rw [here]
    exact second value
  | ask op next ih =>
    -- The next answer leads somewhere, and the rest of the program is ready there.
    intro answer
    obtain ⟨after, leads, rest⟩ := first answer
    exact ⟨after, leads, ih answer rest⟩

/-- A caller that checks a connection out has it, or has no place at all. -/
theorem checkOut_orderly (pool : PoolRef) (ticket : Ticket) :
    (checkOut pool ticket).Orderly Phase.ofAcquired (.inside pool ticket .waiting) := by
  intro permit
  cases permit with
  -- A permit that was refused leaves no place.
  | error error => exact ⟨.away, .denied pool ticket error, rfl⟩
  | ok granted =>
    refine ⟨_, .admitted pool ticket, fun reused => ?_⟩
    cases reused with
    | true => exact ⟨_, .reused pool ticket, rfl⟩
    | false =>
      -- Nothing was idle, so the caller opens a connection.
      refine ⟨_, .opening pool ticket, fun connected => ?_⟩
      cases connected with
      | error error => exact ⟨.away, .failed pool ticket error, rfl⟩
      | ok opened => exact ⟨_, .opened pool ticket, rfl⟩

/-- Whoever asks a pool for a connection gets one, or has no place at all. -/
theorem acquire_orderly (pool : PoolRef) : (acquire pool).Orderly Phase.ofAcquired .away := by
  intro entered
  cases entered with
  -- Who is refused has no place to give up.
  | error error => exact ⟨.away, .refused pool error, rfl⟩
  | ok ticket => exact ⟨_, .entered pool ticket, checkOut_orderly pool ticket⟩

/-- A request leaves the connection with the caller, whatever comes of it. -/
theorem request_orderly (lease : Lease) (request : Request) :
    (Program.request lease request).Orderly (fun _ => Phase.ofLease lease)
      (Phase.ofLease lease) := by
  cases lease with
  | pooled pool ticket =>
    -- Neither sending nor the answer, good or bad, costs the caller its place.
    exact fun _ => ⟨_, .sent pool ticket request, fun answer =>
      ⟨_, .answered pool ticket request answer, rfl⟩⟩
  | direct node number => exact fun _ => ⟨_, .elsewhere rfl, fun _ => ⟨_, .elsewhere rfl, rfl⟩⟩

/-- A connection that is given back leaves the caller without a place. -/
theorem release_orderly (lease : Lease) :
    (release lease).Orderly (fun _ => .away) (Phase.ofLease lease) := by
  cases lease with
  -- A pooled connection is left by its holder.
  | pooled pool ticket => exact fun _ => ⟨_, .left pool ticket .connected, rfl⟩
  | direct node number => rfl

/-- Sends requests over one connection, each after the answer to the one before. -/
def requestAll (lease : Lease) : List Request → Program (List (Except ClientError Frame))
  | [] => done []
  | next :: rest =>
    bind (request lease next) fun answer =>
      bind (requestAll lease rest) fun answers => done (answer :: answers)

/-- Takes a connection from a pool, sends some requests over it and returns it. -/
def visit (pool : PoolRef) (requests : List Request) :
    Program (Except ClientError (List (Except ClientError Frame))) :=
  bind (acquire pool) fun
    | .error error => done (.error error)
    | .ok lease =>
      bind (requestAll lease requests) fun answers =>
        bind (release lease) fun _ => done (.ok answers)

/-- However many requests are sent, the connection stays with the caller. -/
theorem requestAll_orderly (lease : Lease) (requests : List Request) :
    (requestAll lease requests).Orderly (fun _ => Phase.ofLease lease) (Phase.ofLease lease) := by
  induction requests with
  | nil => rfl
  | cons next rest ih =>
    -- Each request leaves the connection where the next one needs it.
    exact (request_orderly lease next).bind fun _ => ih.bind fun _ => rfl

/-- Who visits a pool has no place in it afterwards. -/
theorem visit_visiting (pool : PoolRef) (requests : List Request) :
    (visit pool requests).Visiting := by
  refine (acquire_orderly pool).bind fun acquired => ?_
  cases acquired with
  -- Who gets no connection was not inside.
  | error error => rfl
  | ok lease =>
    exact (requestAll_orderly lease requests).bind fun _ => (release_orderly lease).bind fun _ => rfl

/-- Closing a pool takes no place in it. -/
theorem closePool_visiting (pool : PoolRef) : (closePool pool).Visiting :=
  fun _ => ⟨_, .elsewhere rfl, rfl⟩

end Program

end RedisCluster
