import RedisCluster.Client
import RedisCluster.ScriptedCluster

/-! Rehearsals: programs of a client run against a scripted cluster, under a clock that jumps to the
next deadline when nothing else can happen. -/

namespace RedisCluster

/-- What a script acts upon: the parts of a client, or a whole client once it is built. -/
inductive Surface where
  | parts (translator : Translator)
  | unbuilt
  | whole (client : Client)

/-- Something that a script did. -/
inductive Event where
  | closed (wasOpen : Bool)
  | reset
  | assigned (outcome : Except ClientError PoolRef)
  | rediscovered (outcome : Rediscovery) (underWay : Bool)
  | refreshed (outcome : Except ClientError Unit)
  | overridden (name : String) (node : Endpoint)

namespace Surface

/-- The program of an action, which reports an event if the action means anything here. -/
def program : Surface → Action → Program (Option Event)
  | parts _, .close => do
    let wasOpen ← Program.close
    return some (.closed wasOpen)
  | parts _, .reset => do
    Program.reset
    return some .reset
  | parts _, .assign slots node => do
    let outcome ← Program.assign slots node
    return some (.assigned outcome)
  | parts translator, .rediscover => do
    let outcome ← Discovery.rediscover translator none
    let underWay ← Program.isRediscovering
    return some (.rediscovered outcome underWay)
  | whole _, .close => do
    let _ ← Program.close
    return some (.closed true)
  | whole client, .rediscover => do
    let outcome ← client.refreshTopology
    return some (.refreshed outcome)
  -- The other actions mean nothing here.
  | _, _ => return none

end Surface

/-- A caller in the background that waits for a connection, or what came of its wait. -/
inductive Background where
  | waiting (pool : PoolRef) (ticket : Ticket) (deadline : Nat)
  | finished (outcome : Except ClientError Lease)

/-- Everything that a rehearsal keeps track of. -/
structure Rehearsal where
  client : ClientState
  cluster : ScriptedCluster
  surface : Surface
  /-- The time in nanoseconds. -/
  clock : Nat := 0
  events : List Event := []
  /-- The number of logged calls that were reported already. -/
  reported : Nat := 0
  background : List (String × Background) := []
  leases : List (String × Lease) := []
  saved : List (String × PoolRef) := []

namespace Rehearsal

/-- Records an event. -/
def record (rehearsal : Rehearsal) (event : Event) : Rehearsal :=
  { rehearsal with events := rehearsal.events ++ [event] }

/-- The pool behind a reference. -/
def pool? (rehearsal : Rehearsal) (pool : PoolRef) : Option Pool :=
  rehearsal.client.topology.pool? pool.id

/-- Deadlines fall on whole milliseconds. -/
def deadline (rehearsal : Rehearsal) (pool : PoolRef) : Nat :=
  let wait := ((rehearsal.pool? pool).map (·.config.waitTimeout.nanoseconds)).getD 0
  (rehearsal.clock + wait + 999999) / 1000000 * 1000000

/-- A caller has to wait for its permit, for longer than no time at all. -/
def isWaiting (rehearsal : Rehearsal) (pool : PoolRef) (ticket : Ticket) : Bool :=
  match rehearsal.pool? pool with
  | none => false
  | some found => found.isWaiting ticket && found.config.waitTimeout.nanoseconds ≠ 0

/-- Lets a caller in the background give up if its deadline has passed. -/
def expireOne (time : Nat) (rehearsal : Rehearsal) (entry : String × Background) :
    (String × Background) × Rehearsal :=
  match entry with
  -- Whoever has a permit by then is resumed later.
  | (id, .waiting pool ticket deadline) =>
    if deadline ≤ time then
      match rehearsal.client.perform (.awaitPermit pool ticket) () with
      | (.error error, client) => ((id, .finished (.error error)), { rehearsal with client })
      | (.ok (), _) => (entry, rehearsal)
    else (entry, rehearsal)
  | _ => (entry, rehearsal)

/-- Lets some callers in the background take a step, one after the other. -/
def eachBackground
    (step : Rehearsal → String × Background → (String × Background) × Rehearsal) :
    List (String × Background) → Rehearsal → Rehearsal
  | [], rehearsal => rehearsal
  | entry :: rest, rehearsal =>
    let (entry, after) := step rehearsal entry
    -- The entry stands behind those that have taken their step.
    eachBackground step rest { after with background := after.background ++ [entry] }

/-- Lets every caller in the background take a step, in the order in which they started. -/
def stepBackground (rehearsal : Rehearsal)
    (step : Rehearsal → String × Background → (String × Background) × Rehearsal) : Rehearsal :=
  eachBackground step rehearsal.background { rehearsal with background := [] }

/-- Sets the clock forward; callers whose deadlines pass give up. -/
def advance (rehearsal : Rehearsal) (time : Nat) : Rehearsal :=
  let later := rehearsal.stepBackground (expireOne time)
  { later with clock := max later.clock time }

/-- Opens a connection, unless an override makes it fail. -/
def connect (rehearsal : Rehearsal) (node : Endpoint) : Except ClientError Unit × Rehearsal :=
  let direct (rehearsal : Rehearsal) :=
    let (outcome, cluster) := rehearsal.cluster.connect node
    (outcome, { rehearsal with cluster })
  -- Without an override the cluster decides.
  match rehearsal.cluster.takeOverride "CONNECT" node with
  | (none, _) => direct rehearsal
  | (some rule, cluster) =>
    let noted := { rehearsal with cluster }.record (.overridden "CONNECT" node)
    match rule.response with
    | .failure error => (.error error, noted)
    | _ => direct noted

/-- Carries out one action of a rule. -/
def act (nested : Program (Option Event) → Rehearsal → Option Event × Rehearsal)
    (rehearsal : Rehearsal) (action : Action) : Rehearsal :=
  match action with
  | .down node =>
    { rehearsal with cluster := rehearsal.cluster.setUnreachable node true }
  | .up node =>
    { rehearsal with cluster := rehearsal.cluster.setUnreachable node false }
  | action =>
    match nested (rehearsal.surface.program action) rehearsal with
    | (none, after) => after
    | (some event, after) => after.record event

/-- Lets a node answer a request that has reached it. -/
def handle (nested : Program (Option Event) → Rehearsal → Option Event × Rehearsal)
    (rehearsal : Rehearsal) (call : Call) : Except ClientError Frame × Rehearsal :=
  let logged :=
    { rehearsal with
      cluster := { rehearsal.cluster with log := rehearsal.cluster.log ++ [call] } }
  -- These two are answered by every node alike.
  if call.name = "PING" then (.ok (.simple "PONG"), logged)
  else if call.name = "ASKING" then (.ok .ok, logged)
  else
    match logged.cluster.takeRuleFor call with
    | (none, _) => (.ok .ok, logged)
    | (some rule, cluster) =>
      (rule.response.answer call.node call.slot,
        rule.actions.foldl (act nested) { logged with cluster })

/-- The override that answers a request in front of a node. -/
def overriding (rehearsal : Rehearsal) (node : Endpoint) (frame : Frame) :
    Option (Except ClientError Frame) × Rehearsal :=
  match ScriptedCluster.overridable? frame with
  | none => (none, rehearsal)
  | some name =>
    match rehearsal.cluster.takeOverride name node with
    | (none, _) => (none, rehearsal)
    | (some rule, cluster) =>
      (some (rule.response.answer node 0),
        { rehearsal with cluster }.record (.overridden name node))

/-- The answer to a request, from an override, from the network or from the node. -/
def serve (nested : Program (Option Event) → Rehearsal → Option Event × Rehearsal)
    (rehearsal : Rehearsal) (node : Endpoint) (frame : Frame) :
    Except ClientError Frame × Rehearsal :=
  match rehearsal.overriding node frame with
  | (some answer, after) => (answer, after)
  | (none, after) =>
    match ScriptedCluster.arguments frame with
    | .error error => (.error error, after)
    | .ok args =>
      -- The node was reached once, and is not there any more.
      if after.cluster.isUnreachable node then (.error (.io "mock node went away"), after)
      else after.handle nested ⟨node, args⟩

/-- What the surroundings decide about a step. -/
def choose (nested : Program (Option Event) → Rehearsal → Option Event × Rehearsal) :
    (op : Op) → Rehearsal → op.Choice × Rehearsal
  | .knownPools, rehearsal => (rehearsal.client.topology.knownPools, rehearsal)
  | .awaitPermit pool ticket, rehearsal =>
    -- Nobody else can act while the caller waits, so it waits in vain.
    if rehearsal.isWaiting pool ticket then ((), rehearsal.advance (rehearsal.deadline pool))
    else ((), rehearsal)
  | .connect pool _, rehearsal => rehearsal.connect pool.endpoint
  | .dial node, rehearsal => rehearsal.connect node
  | .answer lease request, rehearsal => rehearsal.serve nested lease.endpoint request.frame
  | .isClosed, rehearsal => ((), rehearsal)
  | .owner _, rehearsal => ((), rehearsal)
  | .lookup _, rehearsal => ((), rehearsal)
  | .register _, rehearsal => ((), rehearsal)
  | .assign _ _, rehearsal => ((), rehearsal)
  | .rebuild _, rehearsal => ((), rehearsal)
  | .reset, rehearsal => ((), rehearsal)
  | .close, rehearsal => ((), rehearsal)
  | .nodeCount, rehearsal => ((), rehearsal)
  | .isRediscovering, rehearsal => ((), rehearsal)
  | .beginRediscovery, rehearsal => ((), rehearsal)
  | .endRediscovery, rehearsal => ((), rehearsal)
  | .enter _, rehearsal => ((), rehearsal)
  | .takeIdle _ _, rehearsal => ((), rehearsal)
  | .leave _ _, rehearsal => ((), rehearsal)
  | .closePool _, rehearsal => ((), rehearsal)
  | .send _ _, rehearsal => ((), rehearsal)

/-- Takes one step. An action may run a program of its own, whose requests may cause actions again;
the rediscovery guard keeps this from going deeper than two levels. -/
def respond : (depth : Nat) → (op : Op) → Rehearsal → op.Answer × Rehearsal
  -- At the last level actions run no programs.
  | 0, op, rehearsal =>
    let (choice, before) := choose (fun _ rehearsal => (none, rehearsal)) op rehearsal
    let (answer, client) := before.client.perform op choice
    (answer, { before with client })
  | depth + 1, op, rehearsal =>
    let (choice, before) := choose (Program.run (respond depth)) op rehearsal
    let (answer, client) := before.client.perform op choice
    (answer, { before with client })

/-- Runs a program to its end. -/
def run {α : Type} (program : Program α) (rehearsal : Rehearsal) : α × Rehearsal :=
  program.run (respond 2) rehearsal

/-- Lets a caller in the background go on if it has got its permit or can get none. -/
def resumeOne (rehearsal : Rehearsal) (entry : String × Background) :
    (String × Background) × Rehearsal :=
  match entry with
  | (id, .waiting pool ticket _) =>
    if rehearsal.isWaiting pool ticket then (entry, rehearsal)
    else
      let (outcome, after) := rehearsal.run (Program.checkOut pool ticket)
      ((id, .finished outcome), after)
  | _ => (entry, rehearsal)

/-- Lets the background go on until everyone there waits or has finished. -/
def settle (rehearsal : Rehearsal) : Rehearsal :=
  rehearsal.stepBackground resumeOne

/-- Gives a kept connection back. -/
def release (rehearsal : Rehearsal) (id : String) : Rehearsal :=
  match rehearsal.leases.lookup id with
  | none => rehearsal
  | some lease =>
    let leases := rehearsal.leases.filter (·.1 ≠ id)
    (run (Program.release lease) { rehearsal with leases }).2

/-- Keeps a connection under a name, in place of the one kept before. -/
def keep (rehearsal : Rehearsal) (id : String) (lease : Lease) : Rehearsal :=
  -- What was kept under the name before goes back first.
  let freed := rehearsal.release id
  { freed with leases := freed.leases ++ [(id, lease)] }

/-- Keeps the connection that was acquired, if it was. -/
def keepAcquired (rehearsal : Rehearsal) (id : String) (outcome : Except ClientError Lease) :
    Except ClientError Unit × Rehearsal :=
  match outcome with
  | .error error => (.error error, rehearsal)
  | .ok lease => (.ok (), rehearsal.keep id lease)

/-- Acquires a connection and keeps it. -/
def acquire (rehearsal : Rehearsal) (pool : PoolRef) (id : String) :
    Except ClientError Unit × Rehearsal :=
  let (outcome, after) := rehearsal.run (Program.acquire pool)
  after.keepAcquired id outcome

/-- Starts to acquire a connection in the background. -/
def acquireLater (rehearsal : Rehearsal) (pool : PoolRef) (id : String) : Rehearsal :=
  let (entered, after) := rehearsal.run (Program.enter pool)
  let task : Background :=
    match entered with
    | .error error => .finished (.error error)
    | .ok ticket => .waiting pool ticket (after.deadline pool)
  settle { after with background := after.background ++ [(id, task)] }

/-- Waits for a connection that is being acquired in the background, and keeps it. -/
def awaitLater (rehearsal : Rehearsal) (id : String) :
    Option (Except ClientError Unit) × Rehearsal :=
  let ready :=
    match rehearsal.background.lookup id with
    | some (.waiting _ _ deadline) => rehearsal.advance deadline
    | _ => rehearsal
  match ready.background.lookup id with
  | some (.finished outcome) =>
    let background := ready.background.filter (·.1 ≠ id)
    let (kept, after) := { ready with background }.keepAcquired id outcome
    (some kept, after)
  | _ => (none, ready)

/-- Sends a request to nodes that take very long and gives up at once; tells whether the answer was
there all the same, because it did not come from a node. -/
def cancelledRequest (rehearsal : Rehearsal) (lease : Lease) (frame : Frame) :
    Bool × Rehearsal :=
  let (_, client) := rehearsal.client.perform (.send lease (.command frame)) ()
  let answered (answer : Except ClientError Frame) (rehearsal : Rehearsal) :=
    let (_, client) := rehearsal.client.perform (.answer lease (.command frame)) answer
    (true, { rehearsal with client })
  match { rehearsal with client }.overriding lease.endpoint frame with
  | (some answer, after) => answered answer after
  | (none, after) =>
    match ScriptedCluster.arguments frame with
    | .error error => answered (.error error) after
    | .ok _ => (false, after)

/-- Makes a pool that is not part of the routing table and saves it under a name. -/
def addPool (rehearsal : Rehearsal) (id : String) (node : Endpoint) (config : PoolConfig) :
    Rehearsal :=
  let (pool, topology) := rehearsal.client.topology.addPool node config
  { rehearsal with
    client := { rehearsal.client with topology }
    saved := (id, pool) :: rehearsal.saved.filter (·.1 ≠ id) }

/-- Saves the pool that is registered under a node key. -/
def save (rehearsal : Rehearsal) (id key : String) : Rehearsal :=
  match rehearsal.client.topology.node? key with
  | none => rehearsal
  | some pool =>
    { rehearsal with saved := (id, pool) :: rehearsal.saved.filter (·.1 ≠ id) }

/-- Closes one pool. -/
def closePool (rehearsal : Rehearsal) (pool : PoolRef) : Rehearsal :=
  (rehearsal.run (Program.closePool pool)).2

/-- Changes the scripted cluster. -/
def onCluster (rehearsal : Rehearsal) (change : ScriptedCluster → ScriptedCluster) : Rehearsal :=
  { rehearsal with cluster := change rehearsal.cluster }

/-- Forgets the logged calls. -/
def clearCalls (rehearsal : Rehearsal) : Rehearsal :=
  { rehearsal.onCluster fun cluster => { cluster with log := [] } with reported := 0 }

/-- The calls that were not reported yet. -/
def newCalls (rehearsal : Rehearsal) : List Call :=
  rehearsal.cluster.log.drop rehearsal.reported

/-- Starts a new report of calls and events. -/
def startReport (rehearsal : Rehearsal) : Rehearsal :=
  { rehearsal with events := [], reported := rehearsal.cluster.log.length }

/-- A rehearsal of the parts of a client. -/
def ofParts (translator : Translator) (config : PoolConfig) (cluster : ScriptedCluster) :
    Rehearsal :=
  { client := .initial config, cluster, surface := .parts translator }

/-- A rehearsal of a client that is built from settings, if they describe one. -/
def ofSettings (settings : Settings) (cluster : ScriptedCluster) :
    Except ClientError (Client × Rehearsal) :=
  match Client.build settings with
  | .error error => .error error
  | .ok start =>
    let (client, started) :=
      run start.program { client := start.state, cluster, surface := .unbuilt }
    .ok (client, { started with surface := .whole client })

end Rehearsal

namespace Topology

/-- The registered pools with their node keys in order. -/
def sortedNodes (topology : Topology) : List (String × PoolRef) :=
  topology.nodes.mergeSort fun a b => !decide (b.1 < a.1)

/-- Joins neighbouring slots that belong to an endpoint of the same spelling. -/
def joinRuns : List (Nat × Endpoint) → List (Nat × Nat × Endpoint)
  | [] => []
  | (slot, node) :: rest =>
    match joinRuns rest with
    | [] => [(slot, slot, node)]
    | (first, last, owner) :: others =>
      if first = slot + 1 ∧ owner = node then (slot, last, owner) :: others
      else (slot, slot, node) :: (first, last, owner) :: others

/-- The owned slots as maximal runs. -/
def ownerRuns (topology : Topology) : List (Nat × Nat × Endpoint) :=
  joinRuns (topology.slots.toList.zipIdx.filterMap fun entry =>
    entry.1.map fun pool => (entry.2, pool.endpoint))

end Topology

end RedisCluster
