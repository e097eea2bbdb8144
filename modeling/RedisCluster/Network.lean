import RedisCluster.Interleaving
import RedisCluster.Line

/-! Tasks whose pooled connections are wires to nodes: how connecting and requests turn out is decided
on the wires. -/

namespace RedisCluster

/-- The wires of all pools, each by the number of its pool and its own. -/
abbrev Wires := Nat × Nat → Wire

/-- Puts a wire in its place. -/
def Wires.put (wires : Wires) (place : Nat × Nat) (wire : Wire) : Wires :=
  fun other => if other = place then wire else wires other

namespace Op

/-- Surroundings in which a connection attempt turns out in some way. -/
def connecting (outcome : Except ClientError Unit) (surroundings : (op : Op) → op.Choice) :
    (op : Op) → op.Choice
  | .connect _ _ => outcome
  | op => surroundings op

/-- Surroundings in which a request turns out in some way. -/
def answering (outcome : Except ClientError Frame) (surroundings : (op : Op) → op.Choice) :
    (op : Op) → op.Choice
  | .answer _ _ => outcome
  | op => surroundings op

end Op

/-- The step that a task takes next, if it is to take one. -/
def Task.op? {α : Type} : Task α → Option Op
  | running rest _ => rest.op?
  | _ => none

/-- The wire that a step opens or makes a request on. -/
def ClientState.wire? (state : ClientState) : Op → Option (Nat × Nat)
  | .connect ref _ => (state.topology.pool? ref.id).map fun pool => (ref.id, pool.nextConnection)
  | .answer (.pooled ref ticket) _ =>
    (state.connection? (ref, ticket)).map fun connection => (ref.id, connection)
  | _ => none

/-- A client with its tasks and the wires behind its pools. -/
structure Network (α : Type) where
  system : System α
  wires : Wires := fun _ => { stream := {} }

namespace Network

variable {α : Type}

/-- What happens next. A step that connects or waits for an answer goes by a script, from its start to
its end, since nobody else has the wire meanwhile; and so does whatever is cut short when a task is
cancelled. -/
inductive Move (α : Type) where
  | start (program : Program α)
  | step (task : Nat) (surroundings : (op : Op) → op.Choice) (script : Script)
  | cancel (task : Nat) (script : Script)

/-- The surroundings of a step, as they turn out on the wire that it is about, and the wires after it;
nothing, if the step does not come to its end. Whether there is a line to a node at all is up to the
surroundings. -/
def serve (dialer : Dialer) (network : Network α) (surroundings : (op : Op) → op.Choice)
    (script : Script) (op : Op) : Option (((op : Op) → op.Choice) × Wires) :=
  match op, network.system.state.wire? op with
  | .connect ref ticket, some place =>
    match surroundings (.connect ref ticket), dialer.dial script with
    -- The node is refused to the client before there is any line to it.
    | .error _, _ => some (surroundings, network.wires)
    | .ok (), (.ok (), wire) => some (surroundings, network.wires.put place wire)
    | .ok (), (.error (.failed error), _) =>
      some (Op.connecting (.error error) surroundings, network.wires)
    -- The handshake never ends, and nothing says how long to wait.
    | .ok (), (.error .pending, _) => none
  | .answer _ request, some place =>
    match (network.wires place).exchange script request.frame with
    | (.ok frame, wire) =>
      some (Op.answering (.ok frame) surroundings, network.wires.put place wire)
    | (.error (.failed error), wire) =>
      some (Op.answering (.error error) surroundings, network.wires.put place wire)
    -- The reply never comes.
    | (.error .pending, _) => none
  -- All other steps have nothing to do with wires.
  | _, _ => some (surroundings, network.wires)

/-- The wires after a task was cut short at a step. A request that was under way has got as far as the
script; a wire that was still being opened is lost. -/
def interrupt (network : Network α) (script : Script) (op : Op) : Wires :=
  match op, network.system.state.wire? op with
  | .answer _ request, some place =>
    network.wires.put place ((network.wires place).exchange script request.frame).2
  -- Whatever else was cut short has left no trace on a wire.
  | _, _ => network.wires

/-- The step that a task takes next. -/
def op? (network : Network α) (index : Nat) : Option Op :=
  network.system.tasks[index]?.bind Task.op?

/-- What a move means for the tasks, and the wires after it; nothing, if a step does not come to its
end. -/
def effect? (dialer : Dialer) (network : Network α) :
    Move α → Option (RedisCluster.Move α × Wires)
  | .start program => some (.start program, network.wires)
  | .step index surroundings script =>
    match network.op? index with
    -- A task that is at no step comes to its end.
    | none => some (.step index surroundings, network.wires)
    | some op =>
      (network.serve dialer surroundings script op).map fun served => (.step index served.1, served.2)
  | .cancel index script =>
    some (.cancel index, (network.op? index).elim network.wires (network.interrupt script))

/-- The network after one move. -/
def move (dialer : Dialer) (network : Network α) (next : Move α) : Network α :=
  match network.effect? dialer next with
  | none => network
  | some (made, wires) => ⟨network.system.move made, wires⟩

/-- The network after some moves in a row. -/
def run (dialer : Dialer) (network : Network α) (moves : List (Move α)) : Network α :=
  moves.foldl (move dialer) network

end Network

end RedisCluster
