import Mathlib.Algebra.Group.Nat.Defs
import RedisCluster.Connection

/-! The other end of a connection: a node that takes whole requests in and answers each of them with one
reply, over a line that is slow, cuts bytes anywhere and may fail. -/

namespace RedisCluster

/-- The size that no buffer reaches. -/
def vast : Nat :=
  2 ^ 63

/-- A reply as a node writes it: bytes that are one frame and leave nothing over. A client may still
find it too large. -/
structure NodeReply where
  frame : Frame
  bytes : Bytes
  whole : Frame.parse vast bytes = .done frame []

/-- The reply that acknowledges a request. -/
def NodeReply.ok : NodeReply :=
  ⟨.ok, Frame.ok.encode, rfl⟩

/-- What a read from a line comes to: it brings bytes that are under way, as many as there are but no
more than one and some others, or finds the line closed, or fails. -/
inductive Arrival where
  | bytes (others : Nat)
  | closed
  | failure (message : String)

/-- What happens on a line while a request is made: how writes and reads turn out, one after the other,
and what the node replies. Where a script ends nothing more happens. -/
structure Script where
  writes : List WriteEvent := []
  reads : List Arrival := []
  reply : Frame → NodeReply := fun _ => .ok

/-- A line to a node, with what is under way on it. -/
structure Line where
  /-- What the node has received and cannot answer yet; no request is too large for it. -/
  node : Decoder := { limit := vast }
  /-- Bytes of replies that the client has not read yet. -/
  underway : Bytes := []
  /-- Every request that the node has received as a whole, with its reply. -/
  log : List (Frame × Frame) := []
  script : Script := {}

namespace Line

/-- The node answers a request. -/
def answer (line : Line) (request : Frame) : Line :=
  { line with
    underway := line.underway ++ (line.script.reply request).bytes
    log := line.log ++ [(request, (line.script.reply request).frame)] }

/-- Bytes reach the node, which answers every request that has become whole. -/
def receive (line : Line) (bytes : Bytes) : Line :=
  -- An error of the node's own decoder is nobody's answer.
  let (requests, _, node) := (line.node.append bytes).drain
  requests.foldl answer { line with node }

/-- A write to a line. -/
def write (bytes : Bytes) (line : Line) : WriteEvent × Line :=
  match line.script.writes with
  -- Behind its end a script lets no byte through.
  | [] => (.stall, line)
  | event :: rest =>
    let after := { line with script := { line.script with writes := rest } }
    match event with
    | .accepts count => (.accepts count, after.receive (bytes.take count))
    -- A failure and a stall leave the node without the bytes.
    | other => (other, after)

/-- A read from a line. -/
def read (line : Line) : ReadEvent × Line :=
  match line.script.reads with
  | [] => (.stall, line)
  | event :: rest =>
    let after := { line with script := { line.script with reads := rest } }
    match event with
    | .closed => (.data [], after)
    | .failure message => (.failure message, after)
    | .bytes others =>
      -- Bytes that are not under way yet are waited for.
      if line.underway.isEmpty then (.stall, after)
      else
        (.data (line.underway.take (others + 1)),
          { after with underway := line.underway.drop (others + 1) })

/-- The stream that a line is to the client. -/
def stream : Stream Line :=
  ⟨read, write⟩

end Line

/-- A connection over a line. -/
abbrev Wire := Connection Line

namespace Wire

/-- Makes a request on a wire while things go by a script. -/
def exchange (wire : Wire) (script : Script) (request : Frame) : Except Halt Frame × Wire :=
  Connection.roundTrip Line.stream { wire with stream := { wire.stream with script } } request

end Wire

/-- How wires are opened: their time limits, and what the handshake presents. -/
structure Dialer where
  readTimeout : Option Duration := none
  writeTimeout : Option Duration := none
  config : ConnectionConfig := {}

namespace Dialer

/-- The dialer that goes by a configuration, with both time limits. -/
def ofConfig (config : ConnectionConfig) : Dialer where
  readTimeout := some config.readTimeout
  writeTimeout := some config.writeTimeout
  config := config

/-- Opens a wire and runs the handshake on it. -/
def dial (dialer : Dialer) (script : Script) : Except Halt Unit × Wire :=
  Connection.handshake Line.stream
    { stream := { script }
      readTimeout := dialer.readTimeout
      writeTimeout := dialer.writeTimeout } dialer.config

end Dialer

end RedisCluster
