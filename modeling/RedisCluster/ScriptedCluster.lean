import RedisCluster.Command
import RedisCluster.Layout

/-! A cluster in memory that answers by a script, for trying out a client without a network. -/

namespace RedisCluster

/-- A request that reached a node. -/
structure Call where
  node : Endpoint
  args : List Bytes

namespace Call

/-- The name of the command in upper case. -/
def name (call : Call) : String :=
  (call.args.head?.map Command.shownName).getD ""

/-- The first argument after the name. -/
def firstArgument? (call : Call) : Option Bytes :=
  call.args[1]?

/-- The slot that a redirect of this call names. -/
def slot (call : Call) : Nat :=
  (call.firstArgument?.map keySlot).getD 0

end Call

/-- Something that happens while a request is in flight. -/
inductive Action where
  | down (node : Endpoint)
  | up (node : Endpoint)
  | close
  | reset
  | assign (slots : List Nat) (node : Endpoint)
  | rediscover

/-- How a node answers. -/
inductive Response where
  | reply (frame : Frame)
  | failure (error : ClientError)
  | moved (node : Endpoint)
  | ask (node : Endpoint)
  | layout (ranges : List (Nat × Nat × Endpoint))
  | whoami
  | ok

namespace Response

/-- The answer that a node gives to a request for a key in some slot. -/
def answer (response : Response) (node : Endpoint) (slot : Nat) : Except ClientError Frame :=
  match response with
  | reply frame => .ok frame
  | failure error => .error error
  | moved target => .ok (.error ("MOVED " ++ toString slot ++ " " ++ target.socketAddress))
  | ask target => .ok (.error ("ASK " ++ toString slot ++ " " ++ target.socketAddress))
  | layout ranges => .ok (Layout.toReply ranges)
  | whoami => .ok (.ofText node.socketAddress)
  | ok => .ok .ok

end Response

/-- A rule of a script: which calls it is for, how often, what happens then, and the answer. -/
structure Rule where
  node : Option Endpoint := none
  name : Option String := none
  key : Option Bytes := none
  /-- How many more calls the rule is good for, if that is limited. -/
  times : Option Nat := none
  actions : List Action := []
  response : Response := .ok

namespace Rule

/-- The rule is still good for something. -/
def isLive (rule : Rule) : Bool :=
  rule.times.all (0 < ·)

/-- The rule is for a call. -/
def covers (rule : Rule) (call : Call) : Bool :=
  rule.isLive && rule.node.all (·.sameNode call.node) && rule.name.all (· == call.name) &&
    rule.key.all fun key => call.firstArgument? == some key

/-- The rule after it was used once. -/
def used (rule : Rule) : Rule :=
  { rule with times := rule.times.map (· - 1) }

end Rule

/-- Takes the first rule that covers something, and counts its use. -/
def takeRule (covers : Rule → Bool) : List Rule → Option Rule × List Rule
  | [] => (none, [])
  | rule :: rest =>
    -- The rule stays in its place, with one use less.
    if covers rule then (some rule, rule.used :: rest)
    else
      let (found, after) := takeRule covers rest
      (found, rule :: after)

/-- The state of a scripted cluster. -/
structure ScriptedCluster where
  /-- The keys of the nodes that cannot be reached. -/
  unreachable : List String := []
  rules : List Rule := []
  /-- Rules that answer in front of the nodes; their name is a request or `CONNECT`. -/
  overrides : List Rule := []
  log : List Call := []
  connects : Nat := 0

namespace ScriptedCluster

/-- Makes a node unreachable, or reachable again. -/
def setUnreachable (cluster : ScriptedCluster) (node : Endpoint) (unreachable : Bool) :
    ScriptedCluster :=
  -- Whatever the node was before, it is listed once at most.
  let others := cluster.unreachable.filter (· ≠ node.nodeKey)
  { cluster with unreachable := if unreachable then node.nodeKey :: others else others }

/-- A node cannot be reached, under any spelling of its host. -/
def isUnreachable (cluster : ScriptedCluster) (node : Endpoint) : Bool :=
  cluster.unreachable.contains node.nodeKey

/-- Opens a connection to a node. -/
def connect (cluster : ScriptedCluster) (node : Endpoint) :
    Except ClientError Unit × ScriptedCluster :=
  if cluster.isUnreachable node then
    (.error (.io ("mock node " ++ node.socketAddress ++ " is unreachable")), cluster)
  else (.ok (), { cluster with connects := cluster.connects + 1 })

/-- The override for a request to a node, if there is one. -/
def takeOverride (cluster : ScriptedCluster) (name : String) (node : Endpoint) :
    Option Rule × ScriptedCluster :=
  let (found, overrides) :=
    takeRule (fun rule => rule.isLive && rule.name == some name && rule.node.all (·.sameNode node))
      cluster.overrides
  (found, { cluster with overrides })

/-- The rule for a call, if there is one. -/
def takeRuleFor (cluster : ScriptedCluster) (call : Call) : Option Rule × ScriptedCluster :=
  let (found, rules) := takeRule (·.covers call) cluster.rules
  (found, { cluster with rules })

/-- The arguments that a request frame holds. -/
def arguments : Frame → Except ClientError (List Bytes)
  | .array items =>
    items.mapM fun
      | .bulk (some payload) => .ok payload
      | other => .error (.protocol ("mock expects bulk arguments, got " ++ other.outline))
  | _ => .error (.protocol "mock expects a command array")

/-- The name of a request that overrides may answer: it has a name and nothing else. -/
def overridable? : Frame → Option String
  | .array [item] => item.asText.filter fun name => name == "PING" || name == "ASKING"
  | _ => none

/-- The logged calls of a command, whose name may be given in either case. -/
def callsNamed (cluster : ScriptedCluster) (name : String) : List Call :=
  cluster.log.filter fun call => call.name == Upper.text name

/-- A scripted cluster as messages show it. -/
def outline (cluster : ScriptedCluster) : String :=
  Outline.record "MockCluster"
    [("connects", toString cluster.connects), ("calls", toString cluster.log.length)]

end ScriptedCluster

end RedisCluster
