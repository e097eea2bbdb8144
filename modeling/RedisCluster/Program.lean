import RedisCluster.Request
import RedisCluster.Topology

/-! Programs over the shared state of a client: trees of atomic steps, so that any interleaving of
several programs can be described step by step. -/

namespace RedisCluster

/-- A connection that a caller may use: checked out of a pool, or opened past all pools. -/
inductive Lease where
  | pooled (pool : PoolRef) (ticket : Ticket)
  | direct (node : Endpoint) (number : Nat)
deriving Repr, DecidableEq

namespace Lease

/-- The node at the other end. -/
def endpoint : Lease → Endpoint
  | pooled pool _ => pool.endpoint
  | direct node _ => node

end Lease

/-- One atomic step of a program. -/
inductive Op where
  | isClosed
  | owner (slot : Nat)
  | lookup (node : Endpoint)
  | register (node : Endpoint)
  | assign (slots : List Nat) (node : Endpoint)
  | rebuild (ranges : List SlotRange)
  | reset
  | close
  | nodeCount
  | knownPools
  | isRediscovering
  | beginRediscovery
  | endRediscovery
  | enter (pool : PoolRef)
  | awaitPermit (pool : PoolRef) (ticket : Ticket)
  | takeIdle (pool : PoolRef) (ticket : Ticket)
  | connect (pool : PoolRef) (ticket : Ticket)
  | leave (pool : PoolRef) (ticket : Ticket)
  | closePool (pool : PoolRef)
  | dial (node : Endpoint)
  | send (lease : Lease) (request : Request)
  | answer (lease : Lease) (request : Request)

namespace Op

/-- What a step tells the program. -/
@[reducible] def Answer : Op → Type
  | isClosed => Bool
  | owner _ => Option PoolRef
  | lookup _ => Option PoolRef
  | register _ => Except ClientError PoolRef
  | assign _ _ => Except ClientError PoolRef
  | rebuild _ => Except ClientError Unit
  | reset => Unit
  | close => Bool
  | nodeCount => Nat
  | knownPools => List PoolRef
  | isRediscovering => Bool
  | beginRediscovery => Bool
  | endRediscovery => Unit
  | enter _ => Except ClientError Ticket
  | awaitPermit _ _ => Except ClientError Unit
  | takeIdle _ _ => Bool
  | connect _ _ => Except ClientError Unit
  | leave _ _ => Unit
  | closePool _ => Unit
  | dial _ => Except ClientError Lease
  | send _ _ => Unit
  | answer _ _ => Except ClientError Frame

/-- What the surroundings decide about a step: the order in which pools are visited, and how
connecting and requests turn out. -/
@[reducible] def Choice : Op → Type
  | isClosed => Unit
  | owner _ => Unit
  | lookup _ => Unit
  | register _ => Unit
  | assign _ _ => Unit
  | rebuild _ => Unit
  | reset => Unit
  | close => Unit
  | nodeCount => Unit
  | knownPools => List PoolRef
  | isRediscovering => Unit
  | beginRediscovery => Unit
  | endRediscovery => Unit
  | enter _ => Unit
  | awaitPermit _ _ => Unit
  | takeIdle _ _ => Unit
  | connect _ _ => Except ClientError Unit
  | leave _ _ => Unit
  | closePool _ => Unit
  | dial _ => Except ClientError Unit
  | send _ _ => Unit
  | answer _ _ => Except ClientError Frame

end Op

/-- A program: a finished value, or a step and what follows each answer to it. -/
inductive Program (α : Type) where
  | done (value : α)
  | ask (op : Op) (next : op.Answer → Program α)

namespace Program

variable {α β σ : Type}

/-- The step that a program takes next. -/
def op? : Program α → Option Op
  | done _ => none
  | ask op _ => some op

/-- Runs one program after another. -/
def bind : Program α → (α → Program β) → Program β
  | done value, follow => follow value
  | ask op next, follow => ask op fun answer => bind (next answer) follow

instance : Monad Program where
  pure := done
  bind := bind

@[simp] theorem pure_eq_done (value : α) : (pure value : Program α) = done value := rfl

@[simp] theorem bind_eq (program : Program α) (follow : α → Program β) :
    program >>= follow = bind program follow := rfl

@[simp] theorem bind_done (value : α) (follow : α → Program β) :
    bind (done value) follow = follow value := rfl

@[simp] theorem bind_ask (op : Op) (next : op.Answer → Program α) (follow : α → Program β) :
    bind (ask op next) follow = ask op fun answer => bind (next answer) follow := rfl

/-- Ending with the value of a program adds nothing to it. -/
@[simp] theorem bind_done_right (program : Program α) : bind program done = program := by
  induction program with
  | done value => rfl
  | ask op next ih =>
    -- The continuations agree at every answer.
    simp only [bind_ask, ask.injEq, heq_eq_eq, true_and]
    funext answer
    exact ih answer

/-- Programs run one after another in one order only, however they are grouped. -/
@[simp] theorem bind_assoc (program : Program α) (first : α → Program β) (second : β → Program σ) :
    bind (bind program first) second = bind program fun value => bind (first value) second := by
  induction program with
  | done value => rfl
  | ask op next ih =>
    -- The continuations agree at every answer.
    simp only [bind_ask, ask.injEq, heq_eq_eq, true_and]
    funext answer
    exact ih answer

/-- Runs a program alone, against anything that can answer its steps. -/
def run (respond : (op : Op) → σ → op.Answer × σ) : Program α → σ → α × σ
  | done value, state => (value, state)
  | ask op next, state =>
    let (answer, after) := respond op state
    run respond (next answer) after

/-- Running two programs in a row runs the second from where the first ended. -/
@[simp] theorem run_bind (respond : (op : Op) → σ → op.Answer × σ) (program : Program α)
    (follow : α → Program β) (state : σ) :
    run respond (bind program follow) state =
      run respond (follow (run respond program state).1) (run respond program state).2 := by
  induction program generalizing state with
  | done value => rfl
  | ask op next ih => exact ih (respond op state).1 (respond op state).2

/-- The client was closed. -/
def isClosed : Program Bool :=
  ask .isClosed done

/-- The pool that owns a slot. -/
def owner (slot : Nat) : Program (Option PoolRef) :=
  ask (.owner slot) done

/-- The pool of a node, looked up first and registered only if it is missing. -/
def getOrCreate (node : Endpoint) : Program (Except ClientError PoolRef) :=
  ask (.lookup node) fun
    | some pool => done (.ok pool)
    | none => ask (.register node) done

/-- Gives slots to a node. -/
def assign (slots : List Nat) (node : Endpoint) : Program (Except ClientError PoolRef) :=
  ask (.assign slots node) done

/-- Replaces the owners of all slots. -/
def rebuild (ranges : List SlotRange) : Program (Except ClientError Unit) :=
  ask (.rebuild ranges) done

/-- Forgets all nodes and owners. -/
def reset : Program Unit :=
  ask .reset done

/-- Closes the client; tells whether it was open until now. -/
def close : Program Bool :=
  ask .close done

/-- The number of known nodes. -/
def nodeCount : Program Nat :=
  ask .nodeCount done

/-- The pools of the known nodes, in any order. -/
def knownPools : Program (List PoolRef) :=
  ask .knownPools done

/-- A rediscovery is under way. -/
def isRediscovering : Program Bool :=
  ask .isRediscovering done

/-- Starts a rediscovery unless one is under way. -/
def beginRediscovery : Program Bool :=
  ask .beginRediscovery done

/-- Ends the rediscovery that this program started. -/
def endRediscovery : Program Unit :=
  ask .endRediscovery done

/-- Lets the caller into a pool, with a permit or into the queue. -/
def enter (pool : PoolRef) : Program (Except ClientError Ticket) :=
  ask (.enter pool) done

/-- Waits for the permit of a caller and takes an idle connection, or opens a new one. -/
def checkOut (pool : PoolRef) (ticket : Ticket) : Program (Except ClientError Lease) :=
  ask (.awaitPermit pool ticket) fun
    | .error error => done (.error error)
    | .ok () =>
      ask (.takeIdle pool ticket) fun
        | true => done (.ok (.pooled pool ticket))
        -- With a permit and no idle connection there is room for a new one.
        | false =>
          ask (.connect pool ticket) fun
            | .error error => done (.error error)
            | .ok () => done (.ok (.pooled pool ticket))

/-- Checks a connection out of a pool. -/
def acquire (pool : PoolRef) : Program (Except ClientError Lease) :=
  bind (enter pool) fun
    | .error error => done (.error error)
    | .ok ticket => checkOut pool ticket

/-- Closes one pool and leaves the others as they are. -/
def closePool (pool : PoolRef) : Program Unit :=
  ask (.closePool pool) done

/-- Opens a connection that belongs to no pool. -/
def dial (node : Endpoint) : Program (Except ClientError Lease) :=
  ask (.dial node) done

/-- Sends a request and waits for its answer. -/
def request (lease : Lease) (request : Request) : Program (Except ClientError Frame) :=
  ask (.send lease request) fun _ => ask (.answer lease request) done

/-- Gives a connection back to its pool; one without a pool is dropped. -/
def release : Lease → Program Unit
  | .pooled pool ticket => ask (.leave pool ticket) done
  -- Nobody waits for this one, and there is no limit to count it for.
  | .direct _ _ => done ()

end Program

end RedisCluster
