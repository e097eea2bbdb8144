import RedisCluster.Slot
import RedisCluster.Text.Upper

/-! Commands: a name and operands, some of which are routing keys. -/

namespace RedisCluster

/-- One operand of a command. -/
inductive Operand where
  | key (bytes : Bytes)
  | plain (bytes : Bytes)
deriving Repr, DecidableEq

namespace Operand

/-- The bytes that are sent for an operand. -/
def bytes : Operand → Bytes
  | key bytes => bytes
  | plain bytes => bytes

/-- The bytes of an operand that decides the route. -/
def key? : Operand → Option Bytes
  | key bytes => some bytes
  | plain _ => none

end Operand

/-- A command ready to be routed and sent. -/
structure Command where
  name : Bytes
  operands : List Operand := []
deriving Repr, DecidableEq

namespace Command

/-- A command whose name is given as text. -/
def named (name : String) : Command :=
  ⟨Utf8.encode name, []⟩

/-- Appends an operand that does not decide the route. -/
def arg (command : Command) (bytes : Bytes) : Command :=
  { command with operands := command.operands ++ [.plain bytes] }

/-- Appends a routing key. -/
def key (command : Command) (bytes : Bytes) : Command :=
  { command with operands := command.operands ++ [.key bytes] }

/-- Everything that is sent, the name first. -/
def args (command : Command) : List Bytes :=
  command.name :: command.operands.map Operand.bytes

/-- The routing keys in the order of the operands. -/
def keys (command : Command) : List Bytes :=
  command.operands.filterMap Operand.key?

/-- The name in upper case, as logs and routing rules use it. -/
def shownName (name : Bytes) : String :=
  Upper.text (Utf8.lossy name)

/-- The slot that every routing key lies in. -/
def slot (command : Command) : Except ClientError (Option Nat) :=
  slotForKeys command.keys

/-- The array of bulk strings that is sent. -/
def toFrame (command : Command) : Frame :=
  .array (command.args.map fun bytes => .bulk (some bytes))

/-- `PING` asks whether a node is alive. -/
def ping : Command :=
  named "PING"

/-- `ASKING` admits the next request to a slot that the node is importing. -/
def asking : Command :=
  named "ASKING"

/-- `CLUSTER SLOTS` asks for the layout of the slots. -/
def clusterSlots : Command :=
  (named "CLUSTER").arg (Utf8.encode "SLOTS")

/-- `GET` reads a value. -/
def get (key : Bytes) : Command :=
  (named "GET").key key

/-- `SET` writes a value. -/
def set (key value : Bytes) : Command :=
  ((named "SET").key key).arg value

/-- `SET` with `PX` writes a value that lasts for some milliseconds. -/
def setWithExpiry (key value : Bytes) (expiry : Duration) : Command :=
  ((set key value).arg (Utf8.encode "PX")).arg (Utf8.encode (toString expiry.milliseconds))

/-- A command over any number of keys. -/
def overKeys (name : String) (keys : List Bytes) : Command :=
  keys.foldl Command.key (named name)

/-- `DEL` removes keys. -/
def del : List Bytes → Command :=
  overKeys "DEL"

/-- `EXISTS` counts the keys that have values. -/
def existing : List Bytes → Command :=
  overKeys "EXISTS"

/-- `MGET` reads several values. -/
def mget : List Bytes → Command :=
  overKeys "MGET"

/-- `MSET` writes several values. -/
def mset (pairs : List (Bytes × Bytes)) : Command :=
  pairs.foldl (fun command pair => (command.key pair.1).arg pair.2) (named "MSET")

/-- `INCR` adds one to a counter. -/
def incr (key : Bytes) : Command :=
  (named "INCR").key key

/-- `INCRBY` adds an amount to a counter. -/
def incrBy (key : Bytes) (amount : Int64) : Command :=
  ((named "INCRBY").key key).arg (Utf8.encode (toString amount.toInt))

/-- `EXPIRE` limits the life of a key to some seconds. -/
def expire (key : Bytes) (seconds : Nat) : Command :=
  ((named "EXPIRE").key key).arg (Utf8.encode (toString seconds))

/-- `TTL` asks how long a key has to live. -/
def ttl (key : Bytes) : Command :=
  (named "TTL").key key

/-- `AUTH` presents a password, and a user name if there is one. -/
def auth (username : Option Bytes) (password : Bytes) : Command :=
  match username with
  | none => (named "AUTH").arg password
  | some user => ((named "AUTH").arg user).arg password

/-- `CLIENT SETNAME` names the connection. -/
def clientSetName (name : Bytes) : Command :=
  ((named "CLIENT").arg (Utf8.encode "SETNAME")).arg name

end Command

end RedisCluster
