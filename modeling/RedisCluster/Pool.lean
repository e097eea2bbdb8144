import RedisCluster.ClientError
import RedisCluster.Settings

/-! Bounded pools of connections, one for each node. -/

namespace RedisCluster

/-- What a caller of a pool is known by, from its place in the queue to the return of its
connection. -/
abbrev Ticket := Nat

/-- How far a caller that holds a permit has got. -/
inductive Stage where
  | granted
  | opening
  | checkedOut (connection : Nat) (broken : Bool)
deriving Repr, DecidableEq

/-- A pool of connections to one node. A permit is either available or held by one caller; the
connections of the pool are numbered in the order in which they were opened. -/
structure Pool where
  endpoint : Endpoint
  config : PoolConfig
  available : Nat
  /-- Callers without a permit, first come first. -/
  waiting : List Ticket := []
  /-- Callers with a permit. -/
  holders : List (Ticket × Stage) := []
  /-- Connections ready for reuse, the last returned first. -/
  idle : List Nat := []
  closed : Bool := false
  nextTicket : Ticket := 0
  nextConnection : Nat := 0

namespace Pool

/-- No pool hands out more permits than two to the power of 61, less one. -/
def maxPermits : Nat :=
  2305843009213693951

/-- The number of permits of a pool. -/
def capacity (config : PoolConfig) : Nat :=
  min config.maxConnections maxPermits

/-- A pool without connections; one is opened only when a caller needs it. -/
def new (endpoint : Endpoint) (config : PoolConfig) : Pool :=
  { endpoint, config, available := capacity config }

/-- The number of permits that are held. -/
def active (pool : Pool) : Nat :=
  capacity pool.config - pool.available

/-- The error for callers of a closed pool. -/
def closedError (pool : Pool) : ClientError :=
  .poolClosed pool.endpoint.nodeKey

/-- The error for callers that waited too long. -/
def exhaustedError (pool : Pool) : ClientError :=
  .poolExhausted pool.endpoint.nodeKey pool.config.waitTimeout

/-- Lets a caller in: it gets a permit at once if one is available, and queues up otherwise. -/
def enter (pool : Pool) : Except ClientError Ticket × Pool :=
  let ticket := pool.nextTicket
  if pool.closed then (.error pool.closedError, pool)
  else if pool.available = 0 then
    (.ok ticket, { pool with waiting := pool.waiting ++ [ticket], nextTicket := ticket + 1 })
  -- The permit is the caller's from here on.
  else
    (.ok ticket, { pool with
      available := pool.available - 1
      holders := pool.holders ++ [(ticket, .granted)]
      nextTicket := ticket + 1 })

/-- The stage of a caller that holds a permit. -/
def stage? (pool : Pool) (ticket : Ticket) : Option Stage :=
  pool.holders.lookup ticket

/-- Moves a caller that holds a permit to another stage. -/
def setStage (pool : Pool) (ticket : Ticket) (stage : Stage) : Pool :=
  { pool with
    holders := pool.holders.map fun holder =>
      if holder.1 = ticket then (ticket, stage) else holder }

/-- A caller still has to wait for its permit. -/
def isWaiting (pool : Pool) (ticket : Ticket) : Bool :=
  -- Closing a pool wakes everybody who waits.
  !pool.closed && (pool.stage? ticket).isNone

/-- Passes a permit on to the first caller in the queue, or makes it available. -/
def releasePermit (pool : Pool) : Pool :=
  match pool.waiting with
  | [] => { pool with available := pool.available + 1 }
  | next :: rest =>
    { pool with waiting := rest, holders := pool.holders ++ [(next, .granted)] }

/-- The idle connections after a caller at some stage has left; a broken connection is discarded,
and so is every connection of a closed pool. -/
def idleAfter (pool : Pool) : Stage → List Nat
  | .checkedOut connection false => if pool.closed then pool.idle else connection :: pool.idle
  | _ => pool.idle

/-- A caller leaves at whatever point it has reached, and everything it held is given back. -/
def leave (pool : Pool) (ticket : Ticket) : Pool :=
  match pool.stage? ticket with
  -- Without a permit there is only the place in the queue to give up.
  | none => { pool with waiting := pool.waiting.filter (· ≠ ticket) }
  | some stage =>
    -- The permit goes on first come, first served.
    releasePermit { pool with
      holders := pool.holders.filter fun holder => holder.1 ≠ ticket
      idle := pool.idleAfter stage }

/-- A caller's wait comes to its end: with a permit, or because the pool closed or time ran out. -/
def awaitPermit (pool : Pool) (ticket : Ticket) : Except ClientError Unit × Pool :=
  if pool.closed then (.error pool.closedError, pool.leave ticket)
  else
    match pool.stage? ticket with
    | some _ => (.ok (), pool)
    -- The time is up, and the place in the queue is given up.
    | none => (.error pool.exhaustedError, pool.leave ticket)

/-- A caller with a permit takes the connection returned last, or sets out to open one. -/
def takeIdle (pool : Pool) (ticket : Ticket) : Bool × Pool :=
  match pool.idle with
  -- The permit stays with the caller while it connects.
  | [] => (false, pool.setStage ticket .opening)
  | connection :: rest =>
    (true, { pool with idle := rest }.setStage ticket (.checkedOut connection false))

/-- An attempt to open a connection ends; if it failed, the caller leaves. -/
def opened (pool : Pool) (ticket : Ticket) (outcome : Except ClientError Unit) : Pool :=
  match outcome with
  -- Its permit goes back with it.
  | .error _ => pool.leave ticket
  | .ok () =>
    { pool with nextConnection := pool.nextConnection + 1 }.setStage ticket
      (.checkedOut pool.nextConnection false)

/-- Notes whether the connection of a caller may still be reused. -/
def mark (pool : Pool) (ticket : Ticket) (broken : Bool) : Pool :=
  match pool.stage? ticket with
  | some (.checkedOut connection _) => pool.setStage ticket (.checkedOut connection broken)
  -- Who has no connection has nothing to be marked.
  | _ => pool

/-- The connection of a caller may not be reused. -/
def isBroken (pool : Pool) (ticket : Ticket) : Bool :=
  match pool.stage? ticket with
  | some (.checkedOut _ broken) => broken
  | _ => false

/-- An answer after which a connection may not be reused: the peer is gone or out of step. -/
def breaks : Except ClientError Frame → Bool
  | .ok _ => false
  | .error (.decode _) => true
  | .error (.protocol _) => true
  -- Of the other errors only those of the connection itself count.
  | .error error => error.isConnectivity

/-- Closes a pool: idle connections are dropped and nobody waits any longer. -/
def close (pool : Pool) : Pool :=
  if pool.closed then pool else { pool with closed := true, idle := [], waiting := [] }

/-- A pool as messages show it. -/
def outline (pool : Pool) : String :=
  Outline.record "NodePool"
    [("endpoint", pool.endpoint.outline), ("config", pool.config.outline),
      ("idle", toString pool.idle.length), ("active", toString pool.active),
      ("closed", Outline.bool pool.closed)]

/-- A checked-out connection as messages show it. -/
def outlineConnection (pool : Pool) (ticket : Ticket) : String :=
  Outline.record "PooledConnection"
    [("node", pool.endpoint.outline), ("broken", Outline.bool (pool.isBroken ticket))]

end Pool

end RedisCluster
