import RedisCluster.Discovery
import RedisCluster.Redirect

/-! Running commands: routing, redirects and recovery within a budget of attempts. -/

namespace RedisCluster

/-- Runs commands on the nodes that own their slots. -/
structure Dispatcher where
  translator : Translator
  /-- The number of attempts that a command has. -/
  maxRedirects : Nat
  maxRedirects_pos : 0 < maxRedirects

/-- Where the next attempt goes. -/
inductive Route where
  | owner
  | asking (target : Endpoint)
deriving Repr, DecidableEq

/-- What the attempts so far have shown. -/
structure Progress where
  route : Route := .owner
  redirected : Bool := false
  lastError : Option ClientError := none
  lastResponsive : Option PoolRef := none

namespace Dispatcher

/-- A dispatcher; a command has at least one attempt. -/
def new (translator : Translator) (maxRedirects : Nat) : Dispatcher :=
  ⟨translator, max maxRedirects 1, by omega⟩

/-- Accepts the reply of a node that is alive. -/
def expectPong : Frame → Except ClientError Unit
  | .simple "PONG" => .ok ()
  | .error message => .error (.server message)
  | other => .error (.protocol ("unexpected PING reply " ++ other.outline))

/-- Checks that a node is alive. -/
def ping (pool : PoolRef) : Program (Except ClientError Unit) := do
  match ← Program.acquire pool with
  | .error error => return .error error
  | .ok lease =>
    let reply ← Program.request lease .ping
    Program.release lease
    return reply.bind expectPong

/-- The first pool whose node is alive; otherwise the first failure is the cause of the error. -/
def firstAlive (failure : Option ClientError) :
    List PoolRef → Program (Except ClientError PoolRef)
  | [] => return .error (.noReachableNode failure)
  | pool :: rest => do
    match ← ping pool with
    | .ok () => return .ok pool
    -- Later failures are less telling, so the first one stays.
    | .error error => firstAlive (failure <|> some error) rest

/-- Any node that is alive. -/
def fallback : Program (Except ClientError PoolRef) := do
  if ← Program.isClosed then return .error .clientClosed
  else
    let known ← Program.knownPools
    firstAlive none known

/-- The owner of a slot. A slot without an owner is worth one rediscovery if any node is known. -/
def ownerPool (dispatcher : Dispatcher) (slot : Option Nat) :
    Program (Except ClientError PoolRef) := do
  match slot with
  | none => fallback
  | some slot =>
    match ← Program.owner slot with
    | some pool => return .ok pool
    | none =>
      -- Without nodes there is nobody to ask.
      if (← Program.nodeCount) = 0 then fallback
      else
        -- Whatever comes of it, the slot is looked up once more.
        let _ ← Discovery.rediscover dispatcher.translator none
        match ← Program.owner slot with
        | some pool => return .ok pool
        | none => fallback

/-- Sends a command on a connection, after `ASKING` where a redirect calls for it. -/
def converse (lease : Lease) (frame : Frame) (asking : Bool) :
    Program (Except ClientError Signal) := do
  if asking then
    let acknowledged ← Program.request lease .asking
    match Redirect.classify acknowledged lease.endpoint with
    | .ok (.reply _) =>
      let reply ← Program.request lease (.command frame)
      return Redirect.classify reply lease.endpoint
    -- A redirect, a failure or an error in place of the acknowledgement is the outcome.
    | other => return other
  else
    let reply ← Program.request lease (.command frame)
    return Redirect.classify reply lease.endpoint

/-- One attempt at a node; the connection is given back before its outcome is judged. -/
def attempt (pool : PoolRef) (frame : Frame) (asking : Bool) :
    Program (Except ClientError Signal) := do
  match ← Program.acquire pool with
  | .error error =>
    -- Only a lost connection calls for another attempt.
    return if error.isConnectivity then .ok (.connectionFailure error) else .error error
  | .ok lease =>
    let outcome ← converse lease frame asking
    Program.release lease
    return outcome

/-- The pool for the next attempt, and whether `ASKING` comes first. -/
def choose (dispatcher : Dispatcher) (slot : Option Nat) :
    Route → Program (Except ClientError (PoolRef × Bool))
  | .asking target => do
    let pool ← Program.getOrCreate target
    return pool.map fun pool => (pool, true)
  | .owner => do
    let pool ← dispatcher.ownerPool slot
    return pool.map fun pool => (pool, false)

/-- The error of a command that used up its attempts. -/
def outOfAttempts (dispatcher : Dispatcher) (progress : Progress) : ClientError :=
  -- A command without attempts cannot be made.
  let cause := progress.lastError.getD (.protocol "command was never attempted")
  if progress.redirected then .tooManyRedirections dispatcher.maxRedirects cause
  else .clusterUnavailable dispatcher.maxRedirects cause

/-- Makes up to `remaining` more attempts. -/
def run (dispatcher : Dispatcher) (slot : Option Nat) (frame : Frame) :
    (remaining : Nat) → Progress → Program (Except ClientError Frame)
  | 0, progress => return .error (dispatcher.outOfAttempts progress)
  | remaining + 1, progress => do
    if ← Program.isClosed then return .error .clientClosed
    else
      match ← dispatcher.choose slot progress.route with
      | .error error => return .error error
      | .ok (pool, asking) =>
        match ← attempt pool frame asking with
        | .error error => return .error error
        -- Whatever the node has replied is the answer, unless it is an error.
        | .ok (.reply reply) => return .ok reply
        | .ok (.moved moved target) =>
          let target := dispatcher.translator.apply target
          match ← Program.assign [moved] target with
          -- The table refuses targets once it is closed.
          | .error error => return .error error
          | .ok _ =>
            run dispatcher slot frame remaining
              { route := .owner
                redirected := true
                lastError := some (.moved moved target.socketAddress)
                lastResponsive := some pool }
        -- The table is left alone, for the slot has not moved yet.
        | .ok (.ask asked target) =>
          let target := dispatcher.translator.apply target
          run dispatcher slot frame remaining
            { route := .asking target
              redirected := true
              lastError := some (.ask asked target.socketAddress)
              lastResponsive := some pool }
        | .ok (.connectionFailure error) =>
          -- The node that answered last is asked first, and a target of `ASK` is forgotten.
          let _ ← Discovery.rediscover dispatcher.translator progress.lastResponsive
          run dispatcher slot frame remaining
            { progress with route := .owner, lastError := some error }

/-- Runs a command. Keys in different slots are refused before anything is sent. -/
def execute (dispatcher : Dispatcher) (command : Command) :
    Program (Except ClientError Frame) :=
  match command.slot with
  | .error error => return .error error
  | .ok slot => dispatcher.run slot command.toFrame dispatcher.maxRedirects {}

end Dispatcher

end RedisCluster
