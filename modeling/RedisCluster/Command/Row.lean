import RedisCluster.Command

/-! Commands as rows of arguments, with a record of the places that routing keys have in them. -/

namespace RedisCluster

/-- The arguments of a command, its name first, and the places of the routing keys among them. -/
structure Row where
  args : List Bytes
  keyPlaces : List Nat
deriving Repr, DecidableEq

namespace Row

/-- A row in which there is only a name. -/
def named (name : Bytes) : Row :=
  ⟨[name], []⟩

/-- Appends an argument that does not decide the route. -/
def arg (row : Row) (bytes : Bytes) : Row :=
  { row with args := row.args ++ [bytes] }

/-- Appends a routing key and records the place that it gets. -/
def key (row : Row) (bytes : Bytes) : Row :=
  ⟨row.args ++ [bytes], row.keyPlaces ++ [row.args.length]⟩

/-- Appends an operand of either kind. -/
def add (row : Row) : Operand → Row
  | .key bytes => row.key bytes
  | .plain bytes => row.arg bytes

/-- The row of a command that got its operands one after the other. -/
def built (name : Bytes) (operands : List Operand) : Row :=
  operands.foldl add (named name)

/-- The arguments at the recorded places, unless one of these lies behind the end of the row. -/
def keys? (row : Row) : Option (List Bytes) :=
  row.keyPlaces.mapM fun place => row.args[place]?

/-- The array of bulk strings that is sent for a row, which stays as it is. -/
def toFrame (row : Row) : Frame :=
  .array (row.args.map fun bytes => .bulk (some bytes))

/-- Turns arguments into bulk strings, each as it is taken. -/
def takeAll : List Bytes → List Frame
  | [] => []
  | bytes :: rest => .bulk (some bytes) :: takeAll rest

/-- The array of bulk strings that a row is used up for. -/
def intoFrame (row : Row) : Frame :=
  .array (takeAll row.args)

end Row

namespace Command

/-- Appends an operand of either kind. -/
def add (command : Command) : Operand → Command
  | .key bytes => command.key bytes
  | .plain bytes => command.arg bytes

/-- The command that got its operands one after the other. -/
def built (name : Bytes) (operands : List Operand) : Command :=
  operands.foldl add ⟨name, []⟩

end Command

end RedisCluster
