import RedisCluster.Layout
import RedisCluster.Pool

/-! The routing table: known nodes with their pools, and the owner of each slot. -/

namespace RedisCluster

/-- What a pool is referred to by: its number and its node. -/
structure PoolRef where
  id : Nat
  endpoint : Endpoint
deriving Repr, DecidableEq

/-- The routing table together with every pool that was ever made. -/
structure Topology where
  config : PoolConfig
  /-- Every pool by its number, whether it is still registered or not. -/
  pools : Array Pool := #[]
  /-- The registered pools by the keys of their nodes. -/
  nodes : List (String × PoolRef) := []
  slots : Vector (Option PoolRef) slotCount := Vector.replicate slotCount none
  closed : Bool := false

namespace Topology

/-- The pool that owns a slot; numbers past the last slot have no owner. -/
def owner (topology : Topology) (slot : Nat) : Option PoolRef :=
  topology.slots[slot]?.join

/-- The pool registered under a node key. -/
def node? (topology : Topology) (key : String) : Option PoolRef :=
  topology.nodes.lookup key

/-- The pool registered for a node under any spelling of its host. -/
def lookup (topology : Topology) (endpoint : Endpoint) : Option PoolRef :=
  topology.node? endpoint.nodeKey

/-- Makes a pool without registering it. -/
def addPool (topology : Topology) (endpoint : Endpoint) (config : PoolConfig) :
    PoolRef × Topology :=
  (⟨topology.pools.size, endpoint⟩,
    { topology with pools := topology.pools.push (Pool.new endpoint config) })

/-- The pool of a node, which is made and registered if the node is new. -/
def register (topology : Topology) (endpoint : Endpoint) :
    Except ClientError PoolRef × Topology :=
  if topology.closed then (.error .clientClosed, topology)
  else
    match topology.lookup endpoint with
    | some pool => (.ok pool, topology)
    | none =>
      let (pool, grown) := topology.addPool endpoint topology.config
      -- The entry stands behind those that are there, so that nodes keep their order.
      (.ok pool, { grown with nodes := grown.nodes ++ [(endpoint.nodeKey, pool)] })

/-- Gives slots to a pool; numbers past the last slot are passed over. -/
def point (topology : Topology) (slots : List Nat) (pool : PoolRef) : Topology :=
  { topology with
    slots := slots.foldl (fun table slot => table.setIfInBounds slot (some pool)) topology.slots }

/-- Gives slots to a node. -/
def assign (topology : Topology) (slots : List Nat) (endpoint : Endpoint) :
    Except ClientError PoolRef × Topology :=
  match topology.register endpoint with
  -- A table that is closed changes nothing.
  | (.error error, same) => (.error error, same)
  | (.ok pool, grown) => (.ok pool, grown.point slots pool)

/-- Gives the slots of a range to its master. -/
def place (topology : Topology) (range : SlotRange) : Topology :=
  (topology.assign range.slots range.master).2

/-- Takes its owner from every slot. -/
def clearSlots (topology : Topology) : Topology :=
  { topology with slots := Vector.replicate slotCount none }

/-- Replaces the owners of all slots by the masters of a layout, of which the last range wins where
ranges overlap; known nodes stay known. -/
def rebuild (topology : Topology) (ranges : List SlotRange) : Except ClientError Unit × Topology :=
  if topology.closed then (.error .clientClosed, topology)
  -- The slots are cleared even if there are no ranges.
  else (.ok (), ranges.foldl place topology.clearSlots)

/-- Changes one pool. -/
def updatePool (topology : Topology) (id : Nat) (change : Pool → Pool) : Topology :=
  { topology with pools := topology.pools.modify id change }

/-- Closes every registered pool and forgets all nodes and owners. -/
def reset (topology : Topology) : Topology :=
  let closedPools := topology.nodes.foldl
    (fun (pools : Array Pool) entry => pools.modify entry.2.id Pool.close) topology.pools
  -- Numbers of pools are never used again, so references to closed pools stay what they are.
  { topology.clearSlots with pools := closedPools, nodes := [] }

/-- Resets the table and registers nothing any more; tells whether it was open until now. -/
def close (topology : Topology) : Bool × Topology :=
  if topology.closed then (false, topology)
  else (true, { topology.reset with closed := true })

/-- The registered pools. -/
def knownPools (topology : Topology) : List PoolRef :=
  topology.nodes.map Prod.snd

/-- The number of slots that have an owner. -/
def coveredSlots (topology : Topology) : Nat :=
  topology.slots.toList.countP Option.isSome

/-- A pool by its number. -/
def pool? (topology : Topology) (id : Nat) : Option Pool :=
  topology.pools[id]?

/-- The table as messages show it. -/
def outline (topology : Topology) : String :=
  Outline.record "TopologyCache"
    [("nodes", Outline.list (topology.nodes.map fun entry => Quoted.text entry.1)),
      ("covered_slots", toString topology.coveredSlots),
      ("closed", Outline.bool topology.closed)]

end Topology

end RedisCluster
