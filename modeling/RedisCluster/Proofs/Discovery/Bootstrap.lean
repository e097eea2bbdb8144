import RedisCluster.Proofs.Discovery.Pass
import RedisCluster.Proofs.Discovery.Start
import RedisCluster.Proofs.Pool.Usage

/-! The start of a client: which bootstrap nodes are asked, and what becomes of the nodes and pools that
were there before. -/

namespace RedisCluster

namespace Topology

variable {topology after : Topology}

/-- A reset leaves every pool closed. -/
theorem Consistent.pool?_reset (consistent : topology.Consistent) {id : Nat} {pool : Pool}
    (found : topology.pool? id = some pool) : topology.reset.pool? id = some pool.close := by
  rw [Topology.pool?_reset, found, Option.map_some]
  split
  · rfl
  · -- A pool that is not registered is closed already.
    rename_i unregistered
    have shut := (consistent.retired id pool found).resolve_left unregistered
    simp [Pool.close, shut]

/-- Pools that are known after a reset were made since. -/
theorem Consistent.fresh_of_reset (consistent : topology.Consistent)
    (enlarged : Enlarged topology.reset after) (settled : after.Consistent) {ref : PoolRef}
    (known : ref ∈ after.knownPools) :
    after.pool? ref.id = some (Pool.new ref.endpoint topology.config) := by
  -- A known pool is open, and belongs to its node.
  obtain ⟨entry, member, rfl⟩ := List.mem_map.1 known
  obtain ⟨pool, present, node, accepting⟩ := settled.live entry member
  cases older : topology.reset.pool? entry.2.id with
  | none =>
    obtain ⟨endpoint, rfl⟩ := enlarged.fresh _ _ older present
    rw [present, ← node]
    rfl
  | some pool' =>
    -- A pool that was there before the reset is closed, and no known pool is.
    have shut := consistent.closed_of_reset older
    have same := enlarged.kept _ _ older
    rw [present, Option.some.injEq] at same
    rw [← same, accepting] at shut
    cases shut

end Topology

namespace Discovery

open Program

variable {translator : Translator} {state last : ClientState} {trace : Trace}

/-- A bootstrap node is asked over a connection past all pools, and the table stays as it is. -/
theorem queryBootstrap_polled {node : Endpoint} {result : Except ClientError (List SlotRange)}
    (run : Alone (queryBootstrap translator node) state trace result last) :
    ∃ answer, trace.IsPoll .layout (.past node) answer ∧
      result = reading translator (.past node) answer ∧ last.topology = state.topology := by
  obtain ⟨dialled, rest, rfl, connected⟩ := alone_ask_iff.1 run
  cases dialled with
  | error error =>
    -- No connection was made, and nothing was sent.
    obtain ⟨rfl, rfl, rfl⟩ := amid_done_iff.1 connected
    exact ⟨.error error, ⟨rfl, List.nil_sublist _⟩, rfl, rfl⟩
  | ok opened =>
    obtain ⟨_, _, rfl, sent⟩ := alone_ask_iff.1 connected
    obtain ⟨reply, _, rfl, answered⟩ := alone_ask_iff.1 sent
    obtain ⟨rfl, rfl, rfl⟩ := amid_done_iff.1 answered
    exact ⟨reply, ⟨rfl, List.Sublist.refl _⟩, rfl, rfl⟩

/-- The layout of a bootstrap node takes the place of everything that was known, if it can be read. -/
theorem loadFrom_polled (accepting : state.topology.closed = false) {node : Endpoint}
    {result : Except ClientError Unit}
    (run : Alone (loadFrom translator node) state trace result last) :
    ∃ answer, trace.IsPoll .layout (.past node) answer ∧
      ((∃ error, reading translator (.past node) answer = .error error ∧ result = .error error ∧
          last.topology = state.topology) ∨
        ∃ ranges, reading translator (.past node) answer = .ok ranges ∧ result = .ok () ∧
          last.topology = (state.topology.reset.rebuild ranges).2) := by
  obtain ⟨asking, loading, read, middle, rfl, asked, loaded⟩ := amid_bind_iff.1 run
  -- The answer is that of the node, and has not touched the table.
  obtain ⟨answer, poll, rfl, same⟩ := queryBootstrap_polled asked
  cases read : reading translator (.past node) answer with
  | error error =>
    rw [read] at loaded
    obtain ⟨rfl, rfl, rfl⟩ := amid_done_iff.1 loaded
    rw [List.append_nil]
    exact ⟨answer, poll, .inl ⟨error, read, rfl, same⟩⟩
  | ok ranges =>
    rw [read] at loaded
    obtain ⟨_, _, rfl, cleared⟩ := alone_ask_iff.1 loaded
    obtain ⟨_, _, rfl, rebuilt⟩ := alone_ask_iff.1 cleared
    obtain ⟨rfl, rfl, rfl⟩ := amid_done_iff.1 rebuilt
    -- A reset leaves an open table open, so the layout is not refused.
    have still : middle.topology.reset.closed = false := by
      rw [same]
      exact accepting
    have accepted : (middle.topology.reset.rebuild ranges).1 = .ok () := by
      simp [Topology.rebuild, still]
    exact ⟨answer, poll.append ⟨rfl, rfl⟩, .inr ⟨ranges, read, accepted, by rw [← same]; rfl⟩⟩

/-- Bootstrap nodes are asked in turn until the layout of one can be read; if none can, the table stays
as it is. -/
theorem loadFirst_polled (accepting : state.topology.closed = false) {bootstrap : List Endpoint}
    {loaded : Bool} (run : Alone (loadFirst translator bootstrap) state trace loaded last) :
    ∃ found : Option (Venue × List SlotRange),
      Polled .layout (reading translator) (bootstrap.map .past) trace found ∧
      loaded = found.isSome ∧
      match found with
      | none => last.topology = state.topology
      | some (_, ranges) => last.topology = (state.topology.reset.rebuild ranges).2 := by
  -- Over the bootstrap nodes: each of them finds the table as it was at first.
  induction bootstrap generalizing state trace with
  | nil =>
    obtain ⟨rfl, rfl, rfl⟩ := amid_done_iff.1 run
    exact ⟨none, .nil ⟨rfl, rfl⟩, rfl, rfl⟩
  | cons node rest ih =>
    obtain ⟨first, second, outcome, middle, rfl, asked, others⟩ := amid_bind_iff.1 run
    obtain ⟨answer, poll, outcomes⟩ := loadFrom_polled accepting asked
    rcases outcomes with ⟨error, bad, rfl, same⟩ | ⟨ranges, good, rfl, built⟩
    -- The node is left behind, and the table is the one of before.
    · obtain ⟨found, polled, told, left⟩ := ih (by rw [same]; exact accepting) others
      rw [same] at left
      exact ⟨found, .rejected poll bad polled, told, left⟩
    -- A layout was found and loaded in place of what was known.
    · obtain ⟨rfl, rfl, rfl⟩ := amid_done_iff.1 others
      rw [List.append_nil]
      exact ⟨some (.past node, ranges), .accepted poll good _, rfl, built⟩

/-- Registering nodes asks nobody. -/
theorem registerAll_silent (bootstrap : List Endpoint) :
    (registerAll bootstrap).Within fun op => op.isPolling = false := by
  induction bootstrap with
  | nil => trivial
  | cons node rest ih =>
    have registered : (getOrCreate node).Within fun op => op.isPolling = false := by
      -- A node is looked up, and registered if it is new.
      refine ⟨rfl, fun known => ?_⟩
      cases known with
      | some pool => trivial
      | none => exact ⟨rfl, fun _ => trivial⟩
    exact registered.bind fun _ => ih

/-- Nodes that are registered with an open table join the known ones, and neither the owners of slots nor
the pools that were there before are touched. -/
theorem registerAll_grown (accepting : state.topology.closed = false)
    (consistent : state.topology.Consistent) {bootstrap : List Endpoint}
    (run : Alone (registerAll bootstrap) state trace () last) :
    Enlarged state.topology last.topology ∧ state.topology.nodes ⊆ last.topology.nodes ∧
      last.topology.slots = state.topology.slots ∧
      last.topology.knownNodes = Endpoint.distinct (state.topology.knownNodes ++ bootstrap) := by
  induction bootstrap generalizing state trace with
  | nil =>
    obtain ⟨_, _, rfl⟩ := amid_done_iff.1 run
    rw [List.append_nil]
    exact ⟨.of_pool? rfl fun _ => rfl, List.Subset.refl _, rfl, consistent.distinct_knownNodes.symm⟩
  | cons node rest ih =>
    obtain ⟨first, second, answer, middle, rfl, registered, others⟩ := amid_bind_iff.1 run
    obtain ⟨_, rfl⟩ := Topology.alone_getOrCreate consistent registered
    -- An open table takes in the first node and stays open for the others.
    have opened : (state.topology.register node).2.closed = false :=
      (Topology.Tidy.closed_register _ node).trans accepting
    obtain ⟨enlarged, kept, slots, known⟩ := ih opened (consistent.register node) others
    -- The owners are those of before, as a new pool owns nothing.
    have same : (state.topology.register node).2.slots = state.topology.slots :=
      Topology.slots_of_owner fun slot _ => Topology.owner_register _ node slot
    refine ⟨(Enlarged.register _ node).trans enlarged,
      List.Subset.trans (Topology.nodes_register _ node) kept, slots.trans same, ?_⟩
    -- The other nodes join what the first one has joined.
    rw [known, Topology.knownNodes_register accepting consistent, Endpoint.distinct_distinct_append,
      List.append_assoc]
    rfl

/-- A client that starts asks the bootstrap nodes in the order in which they are listed, each once and
over a connection past all pools, up to and including the first whose layout can be read. Then everything
that was known before is forgotten, every pool that was there is closed, and the table shows that layout
alone. If there is none, the owners of slots and the pools that were there stay as they are, and every
bootstrap node that was not known joins the known ones. -/
theorem start_asks_in_turn (accepting : state.topology.closed = false)
    (consistent : state.topology.Consistent) {bootstrap : List Endpoint} {loaded : Bool}
    (run : Alone (start translator bootstrap) state trace loaded last) :
    ∃ found : Option (Venue × List SlotRange),
      Polled .layout (reading translator) (bootstrap.map .past) trace found ∧
      (loaded = true ↔ ∃ poll ∈ trace.polls, (reading translator poll.1 poll.2).isOk = true) ∧
      match found with
      | some (_, ranges) => loaded = true ∧
          (∀ id pool, state.topology.pool? id = some pool →
            last.topology.pool? id = some pool.close) ∧
          (∀ pool ∈ state.topology.knownPools, pool ∉ last.topology.knownPools) ∧
          (∀ pool ∈ last.topology.knownPools,
            last.topology.pool? pool.id = some (Pool.new pool.endpoint state.topology.config)) ∧
          last.topology.knownNodes = Endpoint.distinct (ranges.map (·.master)) ∧
          ∀ slot, slot < slotCount →
            match Layout.master? slot ranges with
            | some master => last.topology.OwnedBy slot master
            | none => last.topology.owner slot = none
      | none => loaded = false ∧
          last.topology.slots = state.topology.slots ∧
          Enlarged state.topology last.topology ∧ state.topology.nodes ⊆ last.topology.nodes ∧
          last.topology.knownNodes = Endpoint.distinct (state.topology.knownNodes ++ bootstrap) := by
  obtain ⟨first, second, outcome, middle, rfl, asked, ended⟩ := amid_bind_iff.1 run
  obtain ⟨found, polled, rfl, left⟩ := loadFirst_polled accepting asked
  cases found with
  | some hit =>
    obtain ⟨rfl, rfl, rfl⟩ := amid_done_iff.1 ended
    rw [List.append_nil]
    -- The table is reset, and the layout is loaded into what is left.
    have opened : state.topology.reset.closed = false := accepting
    have shown := Topology.Loaded.rebuild opened consistent.reset hit.2
    have enlarged := Enlarged.rebuild state.topology.reset hit.2
    rw [← left] at shown enlarged
    have shut : ∀ id pool, state.topology.pool? id = some pool →
        last.topology.pool? id = some pool.close :=
      fun id pool found => enlarged.kept id _ (consistent.pool?_reset found)
    refine ⟨some hit, polled, polled.isSome_iff, rfl, shut, fun pool before now => ?_,
      fun pool known => consistent.fresh_of_reset enlarged shown.consistent known, shown.known,
      shown.owners⟩
    -- The pool of a known node is open, and this one was closed.
    obtain ⟨entry, member, rfl⟩ := List.mem_map.1 now
    obtain ⟨current, present, _, accepts⟩ := shown.consistent.live entry member
    obtain ⟨older, listed, same⟩ := List.mem_map.1 before
    obtain ⟨old, there, _⟩ := consistent.live older listed
    have closed := shut _ _ there
    rw [same, present, Option.some.injEq] at closed
    simp [closed] at accepts
  | none =>
    -- All bootstrap nodes have failed, and now they are registered.
    obtain ⟨third, fourth, _, after, rfl, registered, finished⟩ := amid_bind_iff.1 ended
    obtain ⟨rfl, rfl, rfl⟩ := amid_done_iff.1 finished
    rw [← left] at accepting consistent
    obtain ⟨enlarged, kept, slots, known⟩ := registerAll_grown accepting consistent registered
    -- To register them asks nobody, so the polls are those of the first part.
    have silent := unpolled_of_within registered (registerAll_silent bootstrap)
    have whole := polled.append silent
    rw [List.append_nil]
    rw [left] at enlarged kept slots known
    exact ⟨none, whole, whole.isSome_iff, rfl, slots, enlarged, kept, known⟩

/-- A client that knows one node, to which it has given slot 3. -/
def established : ClientState where
  topology := (({ config := {} : Topology }).assign [3] ⟨"127.0.0.1", 7000⟩).2

/-- A new start of that client from some bootstrap nodes, of which those at one port are out of reach. -/
def restart (bootstrap : List Endpoint) : Bool × ClientState × Trace :=
  play limping (start .identity bootstrap) established

/-- A new start forgets the node that was known as soon as one bootstrap node reports a layout; if the only
one that is listed is out of reach, under two spellings, it joins the known node. -/
theorem start_asks_in_turn_either_way :
    let answered := restart [⟨"127.0.0.1", 7001⟩, ⟨"127.0.0.1", 7002⟩, ⟨"127.0.0.1", 7004⟩]
    let refused := restart [⟨"127.0.0.1", 7001⟩, ⟨"localhost", 7001⟩]
    (answered.2.2.polls.map Prod.fst = [.past ⟨"127.0.0.1", 7001⟩, .past ⟨"127.0.0.1", 7002⟩] ∧
      answered.2.1.topology.knownNodes = [⟨"127.0.0.1", 7003⟩] ∧
      answered.2.1.topology.OwnedBy 3 ⟨"127.0.0.1", 7003⟩) ∧
    refused.2.2.polls.map Prod.fst = [.past ⟨"127.0.0.1", 7001⟩, .past ⟨"localhost", 7001⟩] ∧
      refused.2.1.topology.knownNodes = [⟨"127.0.0.1", 7000⟩, ⟨"127.0.0.1", 7001⟩] ∧
      refused.2.1.topology.slots = established.topology.slots := by
  intro answered refused
  have consistent : established.topology.Consistent :=
    (Topology.consistent_new {}).assign [3] ⟨"127.0.0.1", 7000⟩
  have accepting : established.topology.closed = false := by decide +kernel
  refine ⟨?_, ?_⟩
  · have run : Alone (start .identity _) established answered.2.2 answered.1 answered.2.1 := alone_play _ _ _
    have loaded : answered.1 = true := by decide +kernel
    have polls : answered.2.2.polls =
        [(.past ⟨"127.0.0.1", 7001⟩, .error (.io "connection refused")),
          (.past ⟨"127.0.0.1", 7002⟩, .ok (Layout.toReply [(3, 5, ⟨"127.0.0.1", 7003⟩)]))] := by
      decide +kernel
    -- Nothing else about the session matters.
    generalize answered = session at run loaded polls ⊢
    obtain ⟨found, polled, _, settled⟩ := start_asks_in_turn accepting consistent run
    cases found with
    | none => simp [loaded] at settled
    | some hit =>
      -- The layout that was accepted is the answer of the last node.
      have good := polled.judge_last (by rw [polls]; rfl)
      have read : reading .identity (.past ⟨"127.0.0.1", 7002⟩)
          (.ok (Layout.toReply [(3, 5, ⟨"127.0.0.1", 7003⟩)])) =
            .ok [⟨3, 5, ⟨"127.0.0.1", 7003⟩, []⟩] := by
        decide +kernel
      rw [read, Except.ok.injEq] at good
      obtain ⟨_, _, _, _, known, owners⟩ := settled
      have third := owners 3 (by decide)
      rw [← good] at known third
      exact ⟨by rw [polls]; rfl, known.trans (by decide +kernel), third⟩
  · have run : Alone (start .identity _) established refused.2.2 refused.1 refused.2.1 := alone_play _ _ _
    have missed : refused.1 = false ∧ refused.2.2.polls.map Prod.fst =
        [.past ⟨"127.0.0.1", 7001⟩, .past ⟨"localhost", 7001⟩] := by
      decide +kernel
    have before : established.topology.knownNodes = [⟨"127.0.0.1", 7000⟩] := by decide +kernel
    generalize refused = session at run missed ⊢
    obtain ⟨found, _, _, settled⟩ := start_asks_in_turn accepting consistent run
    cases found with
    | none =>
      obtain ⟨_, slots, _, _, known⟩ := settled
      rw [before] at known
      exact ⟨missed.2, known.trans (by decide +kernel), slots⟩
    | some hit => simp [missed.1] at settled

end Discovery

end RedisCluster
