import RedisCluster.ClientError
import RedisCluster.Endpoint
import RedisCluster.Slot

/-! The layout of the slots, as one node reports it. -/

namespace RedisCluster

/-- A range of slots, both ends included, with the nodes that serve it. -/
structure SlotRange where
  first : Nat
  last : Nat
  master : Endpoint
  replicas : List Endpoint := []
deriving Repr, DecidableEq

namespace SlotRange

/-- The slots of a range in order. -/
def slots (range : SlotRange) : List Nat :=
  List.range' range.first (range.last + 1 - range.first)

end SlotRange

namespace Layout

/-- A frame that is the number of a slot. -/
def slot? : Frame → Option Nat
  | .integer value =>
    if 0 ≤ value.toInt ∧ value.toInt < slotCount then some value.toInt.toNat else none
  | _ => none

/-- A frame that is a port. -/
def port? : Frame → Option UInt16
  | .integer value =>
    if 0 ≤ value.toInt ∧ value.toInt < 65536 then some (UInt16.ofNat value.toInt.toNat) else none
  | _ => none

/-- A node entry; an empty or unknown host stands for the node that was asked. -/
def node (queried : Endpoint) : Frame → Except ClientError Endpoint
  -- Whatever follows the port is of no interest.
  | .array (host :: port :: _) =>
    match host.asText with
    | none => .error (.protocol "CLUSTER SLOTS node host must be a string")
    | some text =>
      match port? port with
      | none => .error (.protocol "CLUSTER SLOTS node port is invalid")
      | some port => .ok ⟨if text = "" ∨ text = "?" then queried.host else text, port⟩
  | .array _ => .error (.protocol "CLUSTER SLOTS node entry needs a host and a port")
  | _ => .error (.protocol "CLUSTER SLOTS node entry must be an array")

/-- The bounds and the node entries of a range, if its entry is well formed. -/
def range? : Frame → Option (Nat × Nat × Frame × List Frame)
  | .array (first :: last :: master :: replicas) =>
    match slot? first, slot? last with
    -- A range must not run backwards.
    | some first, some last => if first ≤ last then some (first, last, master, replicas) else none
    | _, _ => none
  | _ => none

/-- The ranges of a layout; malformed entries are skipped, but the master of a range is needed. -/
def ofEntries (queried : Endpoint) : List Frame → Except ClientError (List SlotRange)
  | [] => .ok []
  | entry :: rest =>
    match range? entry with
    -- Clusters may list what is no range.
    | none => ofEntries queried rest
    | some (first, last, master, replicas) =>
      match node queried master with
      | .error error => .error error
      | .ok master =>
        match ofEntries queried rest with
        | .error error => .error error
        | .ok ranges =>
          -- A replica that is malformed is left out.
          let known := replicas.filterMap fun replica => (node queried replica).toOption
          .ok (⟨first, last, master, known⟩ :: ranges)

/-- The layout that a reply to `CLUSTER SLOTS` describes. -/
def ofReply (queried : Endpoint) : Frame → Except ClientError (List SlotRange)
  | .array entries => ofEntries queried entries
  -- An error of the node is passed on.
  | .error message => .error (.server message)
  | other =>
    .error (.protocol ("CLUSTER SLOTS reply must be an array, got " ++ other.outline))

/-- The reply that reports one master for each range. -/
def toReply (ranges : List (Nat × Nat × Endpoint)) : Frame :=
  .array (ranges.map fun (first, last, node) =>
    .array [.integer (Int64.ofNat first), .integer (Int64.ofNat last),
      .array [.ofText node.host, .integer (Int64.ofNat node.port.toNat)]])

end Layout

end RedisCluster
