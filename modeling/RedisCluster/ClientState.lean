import RedisCluster.Program

/-! The state that all programs of a client share, and the effect of each step on it. -/

namespace RedisCluster

/-- The shared state of a client. -/
structure ClientState where
  topology : Topology
  rediscovering : Bool := false
  /-- The number of connections opened past all pools. -/
  dialled : Nat := 0

namespace ClientState

/-- The state of a new client, which knows no nodes. -/
def initial (config : PoolConfig) : ClientState :=
  { topology := { config } }

/-- Replaces the routing table. -/
def withTopology {α : Type} (state : ClientState) (result : α × Topology) : α × ClientState :=
  (result.1, { state with topology := result.2 })

/-- Lets one pool take a step; a pool that was never made is treated as closed. -/
def onPool {α : Type} (state : ClientState) (pool : PoolRef) (missing : α)
    (step : Pool → α × Pool) : α × ClientState :=
  match state.topology.pool? pool.id with
  -- Steps of a pool that is gone leave the state alone.
  | none => (missing, state)
  | some found =>
    let (answer, after) := step found
    (answer, { state with topology := state.topology.updatePool pool.id fun _ => after })

/-- Changes one pool. -/
def changePool (state : ClientState) (pool : PoolRef) (change : Pool → Pool) : ClientState :=
  { state with topology := state.topology.updatePool pool.id change }

/-- Notes whether the connection of a lease may still be reused. -/
def mark (state : ClientState) (lease : Lease) (broken : Bool) : ClientState :=
  match lease with
  | .pooled pool ticket => state.changePool pool (·.mark ticket broken)
  -- No pool knows of a connection that was dialled past it.
  | .direct _ _ => state

/-- The connection that is checked out at a place in a pool. -/
def connection? (state : ClientState) (place : PoolRef × Ticket) : Option Nat :=
  match (state.topology.pool? place.1.id).bind fun pool => pool.stage? place.2 with
  | some (.checkedOut connection _) => some connection
  | _ => none

/-- The caller's view of a pool that does not exist. -/
def missing {α : Type} (pool : PoolRef) : Except ClientError α :=
  .error (.poolClosed pool.endpoint.nodeKey)

/-- The effect of one step, given what the surroundings decide about it. -/
def perform (state : ClientState) : (op : Op) → op.Choice → op.Answer × ClientState
  | .isClosed, _ => (state.topology.closed, state)
  | .owner slot, _ => (state.topology.owner slot, state)
  | .lookup node, _ => (state.topology.lookup node, state)
  | .register node, _ => state.withTopology (state.topology.register node)
  | .assign slots node, _ => state.withTopology (state.topology.assign slots node)
  | .rebuild ranges, _ => state.withTopology (state.topology.rebuild ranges)
  | .reset, _ => ((), { state with topology := state.topology.reset })
  | .close, _ => state.withTopology state.topology.close
  | .nodeCount, _ => (state.topology.nodes.length, state)
  | .knownPools, order =>
    let known := state.topology.knownPools
    -- Only a rearrangement of the known pools counts as an order.
    (if order.isPerm known then order else known, state)
  | .isRediscovering, _ => (state.rediscovering, state)
  -- Whoever asks finds the guard set afterwards, be it by this caller or by another one.
  | .beginRediscovery, _ => (!state.rediscovering, { state with rediscovering := true })
  | .endRediscovery, _ => ((), { state with rediscovering := false })
  | .enter pool, _ => state.onPool pool (missing pool) Pool.enter
  | .awaitPermit pool ticket, _ => state.onPool pool (missing pool) (·.awaitPermit ticket)
  | .takeIdle pool ticket, _ => state.onPool pool false (·.takeIdle ticket)
  | .connect pool ticket, outcome =>
    (outcome, state.changePool pool (·.opened ticket outcome))
  | .leave pool ticket, _ => ((), state.changePool pool (·.leave ticket))
  | .closePool pool, _ => ((), state.changePool pool Pool.close)
  | .dial node, outcome =>
    match outcome with
    | .error error => (.error error, state)
    | .ok () => (.ok (.direct node state.dialled), { state with dialled := state.dialled + 1 })
  -- Until its answer is in, a request leaves the connection unfit for anyone else.
  | .send lease _, _ => ((), state.mark lease true)
  | .answer lease _, answer => (answer, state.mark lease (Pool.breaks answer))

end ClientState

end RedisCluster
