import RedisCluster.Command
import RedisCluster.Settings

/-! One connection to a node: framing, time limits and the handshake, over any stream. -/

namespace RedisCluster

/-- What a read brings: some bytes (none at the end of the stream), an error, or nothing ever. -/
inductive ReadEvent where
  | data (bytes : Bytes)
  | failure (message : String)
  | stall
deriving Repr

/-- What a write does: accepts some of the bytes, fails, or never gets on. -/
inductive WriteEvent where
  | accepts (count : Nat)
  | failure (message : String)
  | stall
deriving Repr

/-- A stream under a script; with `σ` it remembers how far the script has run. -/
structure Stream (σ : Type) where
  read : σ → ReadEvent × σ
  write : Bytes → σ → WriteEvent × σ

/-- What reaching a node comes to: a stream to it, an error, or nothing ever. -/
inductive Reach (σ : Type) where
  | stream (state : σ)
  | failure (message : String)
  | stall

/-- Why a call on a connection does not return a result. -/
inductive Halt where
  | failed (error : ClientError)
  | pending
deriving Repr

/-- The halt of an operation that never gets on, which its time limit turns into a failure. -/
def Halt.ofStall (operation : String) : Option Duration → Halt
  | some limit => .failed (.timeout operation limit)
  | none => .pending

/-- A connection over a stream in state `σ`; `written` records every byte the stream accepted. -/
structure Connection (σ : Type) where
  stream : σ
  decoder : Decoder := {}
  encoder : Encoder := {}
  readTimeout : Option Duration := none
  writeTimeout : Option Duration := none
  written : Bytes := []

namespace Connection

variable {σ : Type}

/-- Takes note of bytes that the stream accepted. -/
def accept (connection : Connection σ) (bytes : Bytes) : Connection σ :=
  { connection with written := connection.written ++ bytes }

/-- Writes all of some bytes, of which the stream may accept a part at a time. -/
def writeAll (stream : Stream σ) (connection : Connection σ) (bytes : Bytes) :
    Except Halt Unit × Connection σ :=
  -- An empty part is never offered to the stream.
  if bytes.isEmpty then (.ok (), connection)
  else
    let (event, after) := stream.write bytes connection.stream
    let connection := { connection with stream := after }
    match event with
    | .stall => (.error (.ofStall "write" connection.writeTimeout), connection)
    | .failure message => (.error (.failed (.io message)), connection)
    -- A stream that takes nothing will take nothing more.
    | .accepts 0 => (.error (.failed (.io "write zero")), connection)
    | .accepts (count + 1) =>
      writeAll stream (connection.accept (bytes.take (count + 1))) (bytes.drop (count + 1))
termination_by bytes.length
decreasing_by
  simp_all only [List.isEmpty_iff, List.length_drop]
  have : 0 < bytes.length := List.length_pos_iff.mpr (by assumption)
  omega

/-- Writes one frame; what a failed write leaves over is not written later. -/
def writeFrame (stream : Stream σ) (connection : Connection σ) (frame : Frame) :
    Except Halt Unit × Connection σ :=
  -- The encoder is empty from here on, even if the write fails.
  let (bytes, encoder) := (connection.encoder.encode frame).take
  writeAll stream { connection with encoder := encoder } bytes

/-- Reads until one whole frame has arrived. Every read that goes on adds a byte to a buffer that is
within the limit, so the loop ends on every stream. -/
def readFrame (stream : Stream σ) (connection : Connection σ) :
    Except Halt Frame × Connection σ :=
  match _decoded : connection.decoder.decode with
  | (.error error, decoder) => (.error (.failed (.decode error)), { connection with decoder })
  | (.ok (some frame), decoder) => (.ok frame, { connection with decoder })
  -- Nothing is taken out of the buffer, so it is read on.
  | (.ok none, _) =>
    let (event, after) := stream.read connection.stream
    match event with
    | .stall =>
      (.error (.ofStall "read" connection.readTimeout), { connection with stream := after })
    | .failure message => (.error (.failed (.io message)), { connection with stream := after })
    -- The end of the stream is an error here, since a frame is due.
    | .data [] =>
      (.error (.failed (.io "connection closed by peer")), { connection with stream := after })
    | .data (byte :: bytes) =>
      readFrame stream
        { connection with
          stream := after
          decoder := connection.decoder.append (byte :: bytes) }
termination_by connection.decoder.limit + 1 - connection.decoder.buffered
decreasing_by
  have := Decoder.buffered_le_limit _decoded
  simp only [Decoder.append, Decoder.buffered, List.length_append, List.length_cons] at this ⊢
  omega

/-- Writes a frame and reads its reply. -/
def roundTrip (stream : Stream σ) (connection : Connection σ) (frame : Frame) :
    Except Halt Frame × Connection σ :=
  match connection.writeFrame stream frame with
  | (.error halt, after) => (.error halt, after)
  | (.ok (), after) => after.readFrame stream

/-- Accepts the acknowledging reply only. -/
def expectOk (step : String) : Frame → Except Halt Unit
  | .error message => .error (.failed (.server message))
  | reply =>
    -- No other status will do.
    if reply.isOk then .ok ()
    else .error (.failed (.protocol ("unexpected " ++ step ++ " reply " ++ reply.outline)))

/-- Judges the reply to a password. -/
def expectAuthenticated : Frame → Except Halt Unit
  | .error message => .error (.failed (.auth message))
  | reply => expectOk "AUTH" reply

/-- Runs one step of the handshake, if it is called for. -/
def handshakeStep (stream : Stream σ) (connection : Connection σ) (command : Option Command)
    (judge : Frame → Except Halt Unit) : Except Halt Unit × Connection σ :=
  match command with
  | none => (.ok (), connection)
  | some command =>
    match connection.roundTrip stream command.toFrame with
    | (.error halt, after) => (.error halt, after)
    | (.ok reply, after) => (judge reply, after)

/-- Presents the password and names the connection, as far as the configuration asks for it. -/
def handshake (stream : Stream σ) (connection : Connection σ) (config : ConnectionConfig) :
    Except Halt Unit × Connection σ :=
  -- A name of a user without a password is not presented.
  let auth := config.password.map fun password =>
    Command.auth (config.username.map Utf8.encode) (Utf8.encode password)
  match connection.handshakeStep stream auth expectAuthenticated with
  | (.error halt, after) => (.error halt, after)
  -- The connection is named only once it is authenticated.
  | (.ok (), after) =>
    let setName := config.clientName.map fun name => Command.clientSetName (Utf8.encode name)
    after.handshakeStep stream setName (expectOk "CLIENT SETNAME")

/-- A new connection over a stream, under the time limits of a configuration. -/
def ofConfig (config : ConnectionConfig) (stream : σ) : Connection σ where
  stream := stream
  readTimeout := some config.readTimeout
  writeTimeout := some config.writeTimeout

/-- Opens a connection to a node. Reaching the node has a time limit of its own, and nobody gets the
connection before the handshake is over. -/
def establish (stream : Stream σ) (config : ConnectionConfig) :
    Reach σ → Except Halt (Connection σ)
  | .stall => .error (.ofStall "connect" (some config.connectTimeout))
  | .failure message => .error (.failed (.io message))
  | .stream state =>
    match (ofConfig config state).handshake stream config with
    -- The stream is given up with the handshake.
    | (.error halt, _) => .error halt
    | (.ok (), opened) => .ok opened

/-- A connection as messages show it; `stream` is the text of its stream. -/
def outline (connection : Connection σ) (stream : String) : String :=
  Outline.record "Connection"
    [("stream", stream),
      ("read_timeout", Outline.option (connection.readTimeout.map Duration.text)),
      ("write_timeout", Outline.option (connection.writeTimeout.map Duration.text))]

end Connection

/-- A finite script of reads and writes; after its end a stream is closed for reading and accepts
every write. -/
structure StreamScript where
  reads : List ReadEvent
  writes : List WriteEvent

namespace StreamScript

/-- The next read of a script; a stall lasts for ever. -/
def read (script : StreamScript) : ReadEvent × StreamScript :=
  match script.reads with
  -- Behind its end a script is a closed stream.
  | [] => (.data [], script)
  | .stall :: _ => (.stall, script)
  | event :: rest => (event, { script with reads := rest })

/-- The next write of a script; a stall lasts for ever. -/
def write (bytes : Bytes) (script : StreamScript) : WriteEvent × StreamScript :=
  match script.writes with
  | [] => (.accepts bytes.length, script)
  | .stall :: _ => (.stall, script)
  | event :: rest => (event, { script with writes := rest })

/-- The stream that follows a script. -/
def stream : Stream StreamScript :=
  ⟨read, write⟩

end StreamScript

end RedisCluster
