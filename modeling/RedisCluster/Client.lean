import RedisCluster.ClientState
import RedisCluster.Dispatcher
import RedisCluster.Reply

/-! The client: commands with typed replies over one shared routing table. -/

namespace RedisCluster

/-- A client; all its state is shared by the programs that it runs. -/
structure Client where
  dispatcher : Dispatcher

/-- A client that is about to start: the state that it starts in, the configuration of its connections
unless it is given another way to open them, and the program that starts it. -/
structure Startup where
  state : ClientState
  connection : ConnectionConfig
  program : Program Client

namespace Client

/-- The client that settings describe. -/
def ofSettings (settings : Settings) : Client :=
  ⟨Dispatcher.new settings.translator settings.maxRedirects⟩

/-- Builds the client that settings describe. Only settings can be at fault: the client starts even
if no bootstrap node answers. -/
def build (settings : Settings) : Except ClientError Startup :=
  match settings.check with
  | .error error => .error error
  | .ok bootstrap => .ok {
      state := .initial settings.pool
      connection := settings.connection
      -- Whether a layout was loaded or not, there is a client now.
      program := do
        let _ ← Discovery.start settings.translator bootstrap
        return ofSettings settings }

/-- Runs any command, routed by its keys. -/
def execute (client : Client) (command : Command) : Program (Except ClientError Frame) := do
  -- A closed client says so before it looks at the keys.
  if ← Program.isClosed then return .error .clientClosed
  else client.dispatcher.execute command

/-- Runs a command and reads its reply. -/
def executeAs {α : Type} (client : Client) (command : Command)
    (read : Frame → Except ClientError α) : Program (Except ClientError α) := do
  let reply ← client.execute command
  return reply.bind read

/-- Accepts any status reply. -/
def done (reply : Frame) : Except ClientError Unit :=
  (Reply.status reply).map fun _ => ()

/-- The value of a key. -/
def get (client : Client) (key : Bytes) : Program (Except ClientError (Option Bytes)) :=
  client.executeAs (.get key) Reply.bytes

/-- Sets a key to a value. -/
def set (client : Client) (key value : Bytes) : Program (Except ClientError Unit) :=
  client.executeAs (.set key value) done

/-- Sets a key to a value that expires. -/
def setWithExpiry (client : Client) (key value : Bytes) (expiry : Duration) :
    Program (Except ClientError Unit) :=
  client.executeAs (.setWithExpiry key value expiry) done

/-- Removes keys and counts those that existed. -/
def del (client : Client) (keys : List Bytes) : Program (Except ClientError Int64) :=
  client.executeAs (.del keys) Reply.integer

/-- Counts the keys that exist. -/
def existing (client : Client) (keys : List Bytes) : Program (Except ClientError Int64) :=
  client.executeAs (.existing keys) Reply.integer

/-- Adds one to a counter. -/
def incr (client : Client) (key : Bytes) : Program (Except ClientError Int64) :=
  client.executeAs (.incr key) Reply.integer

/-- Adds an amount to a counter. -/
def incrBy (client : Client) (key : Bytes) (amount : Int64) :
    Program (Except ClientError Int64) :=
  client.executeAs (.incrBy key amount) Reply.integer

/-- The values of several keys. -/
def mget (client : Client) (keys : List Bytes) :
    Program (Except ClientError (List (Option Bytes))) :=
  client.executeAs (.mget keys) Reply.bytesList

/-- Sets several keys. -/
def mset (client : Client) (pairs : List (Bytes × Bytes)) : Program (Except ClientError Unit) :=
  client.executeAs (.mset pairs) done

/-- Limits the life of a key; tells whether the key exists. -/
def expire (client : Client) (key : Bytes) (seconds : Nat) : Program (Except ClientError Bool) :=
  client.executeAs (.expire key seconds) fun reply =>
    (Reply.integer reply).map fun value => value == 1

/-- The seconds that a key has to live. -/
def ttl (client : Client) (key : Bytes) : Program (Except ClientError Int64) :=
  client.executeAs (.ttl key) Reply.integer

/-- Checks that some node is alive. -/
def ping (client : Client) : Program (Except ClientError String) :=
  client.executeAs .ping Reply.status

/-- The one slot of some keys, of which there must be at least one. -/
def validateSameSlot (keys : List Bytes) : Except ClientError Nat :=
  match slotForKeys keys with
  | .error error => .error error
  | .ok none => .error (.invalidArgument "no keys given")
  | .ok (some slot) => .ok slot

/-- Reloads the layout, unless a reload is already under way. -/
def refreshTopology (client : Client) : Program (Except ClientError Unit) := do
  if ← Program.isClosed then return .error .clientClosed
  else
    match ← Discovery.rediscover client.dispatcher.translator none with
    | .exhausted => return .error (.noReachableNode none)
    | .refreshed _ => return .ok ()
    -- Somebody else is reloading it, which is just as well.
    | .alreadyInProgress => return .ok ()

/-- Every slot has an owner. -/
def isFullyCovered (state : ClientState) : Bool :=
  state.topology.coveredSlots == slotCount

/-- A client as messages show it. -/
def outline (client : Client) (state : ClientState) : String :=
  Outline.record "ClusterClient"
    [("cache", state.topology.outline),
      ("max_redirects", toString client.dispatcher.maxRedirects),
      ("closed", Outline.bool state.topology.closed)]

end Client

end RedisCluster
