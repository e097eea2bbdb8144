import RedisCluster.Program

/-! Loading the layout of the slots from the cluster. -/

namespace RedisCluster

/-- How a rediscovery ended. -/
inductive Rediscovery where
  | refreshed (node : Endpoint)
  | alreadyInProgress
  | exhausted
deriving Repr, DecidableEq

namespace Discovery

/-- The layout that a node reports, its masters at the addresses that the client can reach. -/
def layout (translator : Translator) (queried : Endpoint) (reply : Frame) :
    Except ClientError (List SlotRange) :=
  (Layout.ofReply queried reply).map fun ranges =>
    ranges.map fun range => { range with master := translator.apply range.master }

/-- Rebuilds the routing table from the answer of one node. -/
def refreshFrom (translator : Translator) (pool : PoolRef) :
    Program (Except ClientError Unit) := do
  match ← Program.acquire pool with
  | .error error => return .error error
  | .ok lease =>
    let reply ← Program.request lease .layout
    -- The connection goes back before the reply is read.
    Program.release lease
    match reply.bind (layout translator pool.endpoint) with
    | .error error => return .error error
    | .ok ranges => Program.rebuild ranges

/-- Asks nodes in turn until the answer of one rebuilds the table. -/
def firstRefreshed (translator : Translator) : List PoolRef → Program (Option PoolRef)
  | [] => return none
  | pool :: rest => do
    match ← refreshFrom translator pool with
    | .ok () => return some pool
    | .error _ => firstRefreshed translator rest

/-- Asks the known nodes other than one that was asked already. -/
def askOthers (translator : Translator) (asked : Option PoolRef) : Program (Option PoolRef) := do
  let known ← Program.knownPools
  -- Pools are told apart by their numbers, which no two of them share.
  firstRefreshed translator
    (known.filter fun pool => asked.all fun other => pool.id ≠ other.id)

/-- Asks the preferred node first and then every other known node. -/
def pass (translator : Translator) (preferred : Option PoolRef) : Program (Option PoolRef) := do
  match preferred with
  | none => askOthers translator none
  | some pool =>
    match ← refreshFrom translator pool with
    | .ok () => return some pool
    | .error _ => askOthers translator (some pool)

/-- Rebuilds the routing table from the first node that answers, unless another caller is already
doing so. -/
def rediscover (translator : Translator) (preferred : Option PoolRef) : Program Rediscovery := do
  if ← Program.beginRediscovery then
    let found ← pass translator preferred
    -- Whether anything was found or not, others may start now.
    Program.endRediscovery
    match found with
    | some pool => return .refreshed pool.endpoint
    | none => return .exhausted
  else return .alreadyInProgress

/-- Asks a bootstrap node for the layout, over a connection that enters no pool. -/
def queryBootstrap (translator : Translator) (node : Endpoint) :
    Program (Except ClientError (List SlotRange)) := do
  match ← Program.dial node with
  | .error error => return .error error
  | .ok lease =>
    let reply ← Program.request lease .layout
    Program.release lease
    return reply.bind (layout translator node)

/-- Starts over from the layout of one bootstrap node. -/
def loadFrom (translator : Translator) (node : Endpoint) : Program (Except ClientError Unit) := do
  match ← queryBootstrap translator node with
  | .error error => return .error error
  | .ok ranges =>
    -- Only a layout that could be read makes the client forget what it knew.
    Program.reset
    Program.rebuild ranges

/-- Asks bootstrap nodes in turn until the layout of one is loaded. -/
def loadFirst (translator : Translator) : List Endpoint → Program Bool
  | [] => return false
  | node :: rest => do
    match ← loadFrom translator node with
    | .ok () => return true
    | .error _ => loadFirst translator rest

/-- Registers nodes as they are, so that there is somewhere to start from. -/
def registerAll : List Endpoint → Program Unit
  | [] => return ()
  | node :: rest => do
    -- A node that cannot be registered is passed over.
    let _ ← Program.getOrCreate node
    registerAll rest

/-- Loads the first layout that a bootstrap node reports; tells whether there was one. -/
def start (translator : Translator) (bootstrap : List Endpoint) : Program Bool := do
  if ← loadFirst translator bootstrap then return true
  else
    -- Later rediscoveries need somebody to ask.
    registerAll bootstrap
    return false

end Discovery

end RedisCluster
