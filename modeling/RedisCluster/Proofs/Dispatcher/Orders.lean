import RedisCluster.Proofs.Dispatcher.Sweep
import RedisCluster.Proofs.Program.Locality

/-! The order in which the known nodes are visited: it may decide which node is found, but not whether one
is found. -/

namespace RedisCluster

namespace Topology.Consistent

variable {topology : Topology} {one other : PoolRef}

/-- Only an open table knows any pool. -/
theorem open_of_known (consistent : topology.Consistent) (known : one ∈ topology.knownPools) :
    topology.closed = false := by
  -- A closed table is empty.
  cases shut : topology.closed with
  | false => rfl
  | true => simp [knownPools, consistent.emptied shut] at known

/-- No two known pools have one number. -/
theorem eq_of_id (consistent : topology.Consistent) (first : one ∈ topology.knownPools)
    (second : other ∈ topology.knownPools) (same : one.id = other.id) : one = other := by
  -- Both are found among the nodes, each with a pool of its own number.
  obtain ⟨entry, listed, rfl⟩ := List.mem_map.1 first
  obtain ⟨entry', listed', rfl⟩ := List.mem_map.1 second
  obtain ⟨pool, found, node, _⟩ := consistent.live entry listed
  obtain ⟨pool', found', node', _⟩ := consistent.live entry' listed'
  -- One number stands for one pool, which was made for one node.
  rw [same, found', Option.some.injEq] at found
  rcases entry with ⟨_, id, endpoint⟩
  rcases entry' with ⟨_, id', endpoint'⟩
  simp only at same node node'
  rw [same, ← node, ← node', found]

end Topology.Consistent

namespace Program

variable (surroundings : (op : Op) → op.Choice) (request : Request) {state : ClientState}
  {pool : PoolRef}

/-- Asking a node takes place in its pool. -/
theorem inquiry_site (pool : PoolRef) (request : Request) :
    (inquiry pool request).Within fun op => op.site? = some pool.id := by
  -- The steps as they come; each of the first four may be the last one.
  refine ⟨rfl, fun entered => ?_⟩
  cases entered with
  | error error => trivial
  | ok ticket =>
    refine ⟨rfl, fun permit => ?_⟩
    cases permit with
    | error error => trivial
    | ok granted =>
      refine ⟨rfl, fun reused => ?_⟩
      cases reused with
      | true => exact ⟨rfl, fun _ => ⟨rfl, fun _ => ⟨rfl, fun _ => trivial⟩⟩⟩
      | false =>
        refine ⟨rfl, fun connected => ?_⟩
        cases connected with
        | error error => trivial
        | ok opened => exact ⟨rfl, fun _ => ⟨rfl, fun _ => ⟨rfl, fun _ => trivial⟩⟩⟩

/-- What asking a node comes to if it is asked in this state. -/
def heard (state : ClientState) (pool : PoolRef) : Except ClientError Frame :=
  (play surroundings (inquiry pool request) state).1

/-- What a node answers has nothing to do with the order in which pools are visited. -/
@[simp] theorem heard_visiting (order : List PoolRef) (state : ClientState) (pool : PoolRef) :
    heard (Op.visiting order surroundings) request state pool =
      heard surroundings request state pool := by
  -- None of the steps of an inquiry depends on the order.
  have alike : (inquiry pool request).Within fun op =>
      op.visiting order surroundings = surroundings op :=
    (inquiry_site pool request).mono fun op site => Op.visiting_of_site site order surroundings
  rw [heard, play_congr alike]
  rfl

/-- What a node answers depends on its own pool alone. -/
theorem heard_congr {first second : ClientState}
    (same : first.topology.pool? pool.id = second.topology.pool? pool.id) :
    heard surroundings request first pool = heard surroundings request second pool := by
  -- What is local to a pool has an effect on that pool only, and an answer that comes from it.
  obtain ⟨effect, ends⟩ := local_play (inquiry_site pool request) surroundings
  rw [heard, heard, (ends first).answer, (ends second).answer, same]

/-- Asking a node leaves the table alone. -/
theorem steady_play_inquiry (state : ClientState) (pool : PoolRef) :
    state.topology.Steady (play surroundings (inquiry pool request) state).2.1.topology :=
  steady_of_calm (alone_play _ _ _).calm (inquiry_steady pool request)

/-- Asking one of some known nodes changes nothing about what the others would answer. -/
theorem heard_others (consistent : state.topology.Consistent) {rest : List PoolRef}
    (known : ∀ other ∈ pool :: rest, other ∈ state.topology.knownPools)
    (once : (pool :: rest).Nodup) : ∀ other ∈ rest,
      heard surroundings request (play surroundings (inquiry pool request) state).2.1 other =
        heard surroundings request state other := by
  intro other listed
  -- The first inquiry stays within its pool, and the others have theirs.
  obtain ⟨effect, ends⟩ := local_play (inquiry_site pool request) surroundings
  refine heard_congr _ _ ((ends state).others other.id fun same => (List.nodup_cons.1 once).1 ?_)
  -- Two known pools with one number would be one pool.
  have same := consistent.eq_of_id (known other (List.mem_cons_of_mem _ listed))
    (known pool List.mem_cons_self) same
  exact same ▸ listed

/-- What was known before a node was asked is known after it. -/
theorem known_after {rest : List PoolRef}
    (known : ∀ other ∈ pool :: rest, other ∈ state.topology.knownPools) : ∀ other ∈ rest,
      other ∈ (play surroundings (inquiry pool request) state).2.1.topology.knownPools := by
  intro other listed
  -- The table is left alone, and with it the list of those that it knows.
  rw [(steady_play_inquiry surroundings request state pool).knownPools]
  exact known other (List.mem_cons_of_mem _ listed)

end Program

namespace Dispatcher

open Program Discovery

variable (translator : Translator) (surroundings : (op : Op) → op.Choice) {state : ClientState}
  {pools : List PoolRef}

/-- A sweep over known pools finds a node exactly if one of the nodes would answer `PONG`. -/
theorem firstAlive_isOk_iff (consistent : state.topology.Consistent)
    (known : ∀ pool ∈ pools, pool ∈ state.topology.knownPools) (once : pools.Nodup)
    (failure : Option ClientError) :
    (play surroundings (firstAlive failure pools) state).1.isOk = true ↔
      ∃ pool ∈ pools, (pong (.pool pool) (heard surroundings .ping state pool)).isOk = true := by
  -- Over the candidates: what the others would answer is not changed by asking the first one.
  induction pools generalizing failure state with
  | nil => exact iff_of_false nofun nofun
  | cons pool rest ih =>
    have steady := steady_play_inquiry surroundings .ping state pool
    have later := heard_others surroundings .ping consistent known once
    have still := known_after surroundings .ping known
    rw [List.exists_mem_cons_iff, firstAlive, ping_eq, bind_eq, bind_assoc, play_bind, heard]
    -- From here on only the state that the inquiry has led to matters.
    generalize play surroundings (inquiry pool .ping) state = asked at steady later still ⊢
    cases judged : pong (.pool pool) asked.1 with
    | ok alive =>
      -- The node is alive, which ends the sweep; and it is among those that would answer.
      simp only [bind_done, judged]
      exact iff_of_true rfl (.inl rfl)
    | error error =>
      -- The others are asked from the state after it, where they answer what they would have
      -- before.
      have found := ih (steady.consistent consistent) still (List.nodup_cons.1 once).2
        (failure <|> some error)
      simp only [bind_done, judged]
      refine found.trans ((exists_congr fun other => and_congr_right fun listed => ?_).trans
        (or_iff_right nofun).symm)
      rw [later other listed]

/-- A node would answer with a layout that can be read. -/
abbrev Reports (state : ClientState) (pool : PoolRef) (ranges : List SlotRange) : Prop :=
  reading translator (.pool pool) (heard surroundings .layout state pool) = .ok ranges

/-- What has become of a pass over known nodes: the layout of one that reports it was loaded, or none of
them reports any and the table is as it was. -/
def Passed (state : ClientState) (pools : List PoolRef) (found : Option PoolRef) (after : Topology) :
    Prop :=
  match found with
  | some pool => pool ∈ pools ∧ ∃ ranges, Reports translator surroundings state pool ranges ∧
      (state.topology.rebuild ranges).2.Steady after
  | none => (∀ pool ∈ pools, ∀ ranges, ¬Reports translator surroundings state pool ranges) ∧
      state.topology.Steady after

/-- A pass over known nodes loads the layout of one of them, if any of them reports one. -/
theorem firstRefreshed_passed (consistent : state.topology.Consistent)
    (known : ∀ pool ∈ pools, pool ∈ state.topology.knownPools) (once : pools.Nodup) :
    Passed translator surroundings state pools
      (play surroundings (firstRefreshed translator pools) state).1
      (play surroundings (firstRefreshed translator pools) state).2.1.topology := by
  -- Over the candidates: what the others would answer is not changed by asking the first one.
  induction pools generalizing state with
  | nil => exact ⟨nofun, .refl _⟩
  | cons pool rest ih =>
    have steady := steady_play_inquiry surroundings .layout state pool
    have later := heard_others surroundings .layout consistent known once
    have still := known_after surroundings .layout known
    -- Somebody is known, so the table is open.
    have accepting := consistent.open_of_known (known pool List.mem_cons_self)
    have first : heard surroundings .layout state pool =
        (play surroundings (inquiry pool .layout) state).1 := rfl
    rw [firstRefreshed, refreshFrom_eq, bind_eq, bind_assoc, play_bind]
    generalize play surroundings (inquiry pool .layout) state = asked at steady later still first ⊢
    cases read : reading translator (.pool pool) asked.1 with
    | ok ranges =>
      -- The layout is not refused, because the table is open.
      have taken : (asked.2.1.topology.rebuild ranges).1 = .ok () := by
        simp [Topology.rebuild, steady.closed, accepting]
      simp only [Program.rebuild, bind_ask, play_ask, ClientState.perform, ClientState.withTopology,
        taken, bind_done, read]
      exact ⟨List.mem_cons_self, ranges, by rw [Reports, first, read], steady.rebuild ranges⟩
    | error error =>
      have passed := ih (steady.consistent consistent) still (List.nodup_cons.1 once).2
      simp only [bind_done, read]
      generalize play surroundings (firstRefreshed translator rest) asked.2.1 = others at passed ⊢
      -- The hit of the others, or the silence of all of them, is carried over.
      cases hit : others.1 with
      | some other =>
        rw [hit] at passed
        obtain ⟨listed, ranges, reported, loaded⟩ := passed
        rw [Reports, later other listed] at reported
        exact ⟨List.mem_cons_of_mem _ listed, ranges, reported, (steady.rebuild ranges).trans loaded⟩
      | none =>
        rw [hit] at passed
        obtain ⟨silent, unchanged⟩ := passed
        refine ⟨List.forall_mem_cons.2 ⟨fun ranges reported => ?_, fun other listed ranges reported => ?_⟩,
          steady.trans unchanged⟩
        · rw [Reports, first, read] at reported
          cases reported
        · rw [Reports, ← later other listed] at reported
          exact silent other listed ranges reported

/-- What becomes of a pass is the same for all states with one routing table, and for all orders of the
candidates. -/
theorem Passed.visiting {order visited : List PoolRef} {begun : ClientState} {found : Option PoolRef}
    {after : Topology}
    (passed : Passed translator (Op.visiting order surroundings) begun visited found after)
    (same : begun.topology = state.topology) (rearranged : visited.Perm pools) :
    Passed translator surroundings state pools found after := by
  have alike : ∀ pool ranges, Reports translator (Op.visiting order surroundings) begun pool ranges ↔
      Reports translator surroundings state pool ranges := by
    intro pool ranges
    -- The table decides what each pool answers, and the state of nothing else does.
    have there : begun.topology.pool? pool.id = state.topology.pool? pool.id := by rw [same]
    rw [Reports, Reports, heard_visiting, heard_congr _ _ there]
  -- A hit stays a hit in any order, and silence stays silence.
  cases found with
  | some pool =>
    obtain ⟨listed, ranges, reported, loaded⟩ := passed
    exact ⟨rearranged.mem_iff.1 listed, ranges, (alike pool ranges).1 reported, same ▸ loaded⟩
  | none =>
    obtain ⟨silent, unchanged⟩ := passed
    exact ⟨fun pool listed ranges reported =>
      silent pool (rearranged.mem_iff.2 listed) ranges ((alike pool ranges).2 reported), same ▸ unchanged⟩

/-- A pass without a preferred node goes over the known nodes, whatever the order. -/
theorem pass_passed (consistent : state.topology.Consistent) (order : List PoolRef) {begun : ClientState}
    (same : begun.topology = state.topology) :
    Passed translator surroundings state state.topology.knownPools
      (play (Op.visiting order surroundings) (Discovery.pass translator none) begun).1
      (play (Op.visiting order surroundings) (Discovery.pass translator none) begun).2.1.topology := by
  have everybody : Discovery.pass translator none = Program.ask .knownPools (firstRefreshed translator) := by
    simp [Discovery.pass, askOthers, Program.knownPools]
  -- All orders are rearrangements of the known nodes, which come once each.
  have rearranged := begun.knownPools_perm order
  rw [same] at rearranged
  have passed := firstRefreshed_passed translator (Op.visiting order surroundings) (same ▸ consistent)
    (fun pool listed => same ▸ rearranged.mem_iff.1 listed)
    (rearranged.nodup_iff.2 consistent.nodup_knownPools)
  rw [everybody, play_ask]
  exact passed.visiting _ _ same rearranged

/-- A rediscovery that takes its turn passes over the known nodes, whatever the order. -/
theorem rediscover_passed (consistent : state.topology.Consistent) (idle : state.rediscovering = false)
    (order : List PoolRef) :
    ∃ found, Passed translator surroundings state state.topology.knownPools found
        (play (Op.visiting order surroundings) (rediscover translator none) state).2.1.topology ∧
      (play (Op.visiting order surroundings) (rediscover translator none) state).1 =
        match found with
        | some pool => .refreshed pool.endpoint
        | none => .exhausted := by
  -- Taking the turn sets the flag and leaves the table as it is.
  let begun : ClientState := { state with rediscovering := true }
  have same : begun.topology = state.topology := rfl
  have passed := pass_passed translator surroundings consistent order same
  rw [rediscover]
  simp only [bind_eq, beginRediscovery, bind_ask, play_ask, ClientState.perform, idle, Bool.not_false,
    bind_done, if_pos, play_bind, endRediscovery]
  generalize play (Op.visiting order surroundings) (Discovery.pass translator none) begun = passing at passed ⊢
  obtain ⟨found, after, _⟩ := passing
  cases found with
  | some pool => exact ⟨some pool, passed, rfl⟩
  | none => exact ⟨none, passed, rfl⟩

/-- Where another rediscovery is under way, the table stays as it is. -/
theorem rediscover_busy (busy : state.rediscovering = true) :
    (play surroundings (rediscover translator none) state).1 = .alreadyInProgress ∧
      (play surroundings (rediscover translator none) state).2.1.topology = state.topology := by
  -- The turn is not given, and that is the only step.
  rw [rediscover]
  simp only [bind_eq, beginRediscovery, bind_ask, play_ask, ClientState.perform, busy, Bool.not_true,
    bind_done]
  exact ⟨rfl, rfl⟩

/-- A rediscovery loads a layout exactly if no other one is under way and one of the known nodes reports
one, whatever the order. -/
theorem refreshed_iff (consistent : state.topology.Consistent) (order : List PoolRef) :
    (∃ node, (play (Op.visiting order surroundings) (rediscover translator none) state).1 =
        .refreshed node) ↔
      state.rediscovering = false ∧ ∃ pool ∈ state.topology.knownPools, ∃ ranges,
        Reports translator surroundings state pool ranges := by
  -- Either the turn is refused, or the pass over all nodes decides.
  cases turn : state.rediscovering with
  | true =>
    obtain ⟨busy, _⟩ := rediscover_busy translator (Op.visiting order surroundings) turn
    rw [busy]
    exact iff_of_false nofun nofun
  | false =>
    obtain ⟨found, passed, outcome⟩ :=
      rediscover_passed translator surroundings consistent turn order
    rw [outcome]
    cases found with
    | some pool =>
      obtain ⟨listed, ranges, reported, _⟩ := passed
      exact iff_of_true ⟨_, rfl⟩ ⟨rfl, pool, listed, ranges, reported⟩
    | none =>
      obtain ⟨silent, _⟩ := passed
      exact iff_of_false nofun fun ⟨_, pool, listed, ranges, reported⟩ =>
        silent pool listed ranges reported

/-- If the known nodes report one layout only, a rediscovery loads that one or leaves the table as it
is. -/
theorem table_of_rediscover (consistent : state.topology.Consistent) {layout : List SlotRange}
    (agreed : ∀ pool ∈ state.topology.knownPools, ∀ ranges,
      Reports translator surroundings state pool ranges → ranges = layout) (order : List PoolRef) :
    let pass := play (Op.visiting order surroundings) (rediscover translator none) state
    ((∃ node, pass.1 = .refreshed node) ∧ (state.topology.rebuild layout).2.Steady pass.2.1.topology) ∨
      (¬(∃ node, pass.1 = .refreshed node) ∧ state.topology.Steady pass.2.1.topology) := by
  -- A rediscovery that is refused loads nothing; one that is not has passed over all nodes.
  cases turn : state.rediscovering with
  | true =>
    obtain ⟨busy, same⟩ := rediscover_busy translator (Op.visiting order surroundings) turn
    exact .inr ⟨by rw [busy]; exact nofun, by rw [same]; exact .refl _⟩
  | false =>
    obtain ⟨found, passed, outcome⟩ :=
      rediscover_passed translator surroundings consistent turn order
    cases found with
    | some pool =>
      obtain ⟨listed, ranges, reported, loaded⟩ := passed
      exact .inl ⟨⟨_, outcome⟩, agreed pool listed ranges reported ▸ loaded⟩
    | none => exact .inr ⟨by rw [outcome]; exact nofun, passed.2⟩

/-- A search for a node that is alive finds one exactly if one of the known nodes would answer `PONG`,
whatever the order. -/
theorem fallback_isOk_iff (consistent : state.topology.Consistent) (order : List PoolRef) :
    (play (Op.visiting order surroundings) fallback state).1.isOk = true ↔
      ∃ pool ∈ state.topology.knownPools,
        (pong (.pool pool) (heard surroundings .ping state pool)).isOk = true := by
  rw [fallback, bind_eq, Program.isClosed, bind_ask, play_ask]
  cases shut : state.topology.closed with
  | true =>
    -- A client that is closed does not look, and knows no nodes.
    have nobody : state.topology.knownPools = [] := by
      simp [Topology.knownPools, consistent.emptied shut]
    simp only [ClientState.perform, shut, bind_done, nobody]
    exact iff_of_false Bool.false_ne_true (by simp)
  | false =>
    -- The order rearranges the known nodes, and the sweep over them finds one exactly if there is
    -- one.
    have rearranged := state.knownPools_perm order
    have found := firstAlive_isOk_iff (Op.visiting order surroundings) consistent
      (fun pool => rearranged.mem_iff.1) (rearranged.nodup_iff.2 consistent.nodup_knownPools) none
    simp only [heard_visiting, rearranged.mem_iff] at found
    simp only [ClientState.perform, shut, bind_done, Program.knownPools, bind_eq, bind_ask,
      Bool.false_eq_true, if_false]
    rw [play_ask]
    exact found

/-- The order in which the known nodes are visited does not matter if every node behaves in one way, whether
or not its pool has a connection to spare. A rediscovery without a preferred node loads a layout in one order
exactly if it does so in the other. If all layouts that are reported are the same, both orders lead to the
same owners of slots and the same known nodes. A search for a node that is alive finds one in one order
exactly if it does so in the other. -/
theorem visits_in_any_order (consistent : state.topology.Consistent) (one other : List PoolRef) :
    let pass := fun order => play (Op.visiting order surroundings) (rediscover translator none) state
    let sweep := fun order => play (Op.visiting order surroundings) fallback state
    ((∃ node, (pass one).1 = .refreshed node) ↔ ∃ node, (pass other).1 = .refreshed node) ∧
      (∀ layout, (∀ pool ∈ state.topology.knownPools, ∀ ranges,
          Reports translator surroundings state pool ranges → ranges = layout) →
        (pass one).2.1.topology.slots = (pass other).2.1.topology.slots ∧
        (pass one).2.1.topology.nodes = (pass other).2.1.topology.nodes) ∧
      ((sweep one).1.isOk = true ↔ (sweep other).1.isOk = true) := by
  intro pass sweep
  -- Both sides depend on the state alone, so the orders may be exchanged.
  have refreshed := (refreshed_iff translator surroundings consistent one).trans
    (refreshed_iff translator surroundings consistent other).symm
  have found := (fallback_isOk_iff surroundings consistent one).trans
    (fallback_isOk_iff surroundings consistent other).symm
  refine ⟨refreshed, fun layout agreed => ?_, found⟩
  -- Both tables come from the same one, by the same layout if by any.
  rcases table_of_rediscover translator surroundings consistent agreed one with
    ⟨first, loaded⟩ | ⟨first, kept⟩
  · rcases table_of_rediscover translator surroundings consistent agreed other with
      ⟨_, loaded'⟩ | ⟨second, _⟩
    -- Both have loaded the same layout.
    · have alike := loaded'.symm.trans loaded
      exact ⟨alike.slots, alike.nodes⟩
    · exact absurd (refreshed.1 first) second
  · rcases table_of_rediscover translator surroundings consistent agreed other with
      ⟨second, _⟩ | ⟨_, kept'⟩
    · exact absurd (refreshed.2 second) first
    -- Both have left the table alone.
    · have alike := kept'.symm.trans kept
      exact ⟨alike.slots, alike.nodes⟩

/-- Both nodes that a client knows, the one that cannot be reached ahead of the other. -/
def ahead : List PoolRef :=
  [⟨0, ⟨"127.0.0.1", 7001⟩⟩, ⟨1, ⟨"127.0.0.1", 7002⟩⟩]

/-- A rediscovery by that client, by the order of its visits. -/
def visit (order : List PoolRef) : Rediscovery × ClientState × Trace :=
  play (Op.visiting order responsive) (rediscover .identity none) unassigned

/-- A node that cannot be reached is asked in one order and not in the other, and yet both lead to the
same. -/
theorem visits_in_any_order_reversed :
    ((visit ahead).2.2.polls.map Prod.fst = ahead.map .pool ∧
      (visit ahead.reverse).2.2.polls.map Prod.fst = [.pool ⟨1, ⟨"127.0.0.1", 7002⟩⟩]) ∧
    (∃ node, (visit ahead.reverse).1 = .refreshed node) ∧
      (visit ahead.reverse).2.1.topology.owner 4 = some ⟨2, ⟨"127.0.0.1", 7003⟩⟩ ∧
      (play (Op.visiting ahead.reverse responsive) fallback unassigned).1.isOk = true := by
  have consistent : unassigned.topology.Consistent :=
    ((Topology.consistent_new {}).register ⟨"127.0.0.1", 7001⟩).register ⟨"127.0.0.1", 7002⟩
  have known : unassigned.topology.knownPools = ahead := by decide +kernel
  -- The first node cannot be reached, and the second reports the only layout.
  have agreed : ∀ pool ∈ unassigned.topology.knownPools, ∀ ranges,
      Reports .identity responsive unassigned pool ranges →
        ranges = [⟨3, 5, ⟨"127.0.0.1", 7003⟩, []⟩] := by
    rw [known]
    refine List.forall_mem_cons.2 ⟨fun ranges reported => ?_,
      List.forall_mem_singleton.2 fun ranges reported => ?_⟩
    · have silent : heard responsive .layout unassigned ⟨0, ⟨"127.0.0.1", 7001⟩⟩ =
          .error (.io "connection refused") := by
        decide +kernel
      rw [Reports, silent] at reported
      cases reported
    · have read : reading .identity (.pool ⟨1, ⟨"127.0.0.1", 7002⟩⟩)
          (heard responsive .layout unassigned ⟨1, ⟨"127.0.0.1", 7002⟩⟩) =
            .ok [⟨3, 5, ⟨"127.0.0.1", 7003⟩, []⟩] := by
        decide +kernel
      rw [Reports, read] at reported
      exact (Except.ok.inj reported).symm
  -- With one order everything is computed, and the theorem carries it over to the other.
  have loaded : (visit ahead).1 = .refreshed ⟨"127.0.0.1", 7002⟩ := by decide +kernel
  have owned : (visit ahead).2.1.topology.owner 4 = some ⟨2, ⟨"127.0.0.1", 7003⟩⟩ := by decide +kernel
  have alive : (play (Op.visiting ahead responsive) fallback unassigned).1.isOk = true := by
    decide +kernel
  have asked : (visit ahead).2.2.polls.map Prod.fst = ahead.map .pool ∧
      (visit ahead.reverse).2.2.polls.map Prod.fst = [.pool ⟨1, ⟨"127.0.0.1", 7002⟩⟩] := by
    decide +kernel
  obtain ⟨loads, tables, finds⟩ :=
    visits_in_any_order .identity responsive consistent ahead ahead.reverse
  obtain ⟨slots, _⟩ := tables _ agreed
  have same : (visit ahead).2.1.topology.slots = (visit ahead.reverse).2.1.topology.slots := slots
  refine ⟨asked, loads.1 ⟨_, loaded⟩, ?_, finds.1 alive⟩
  rw [Topology.owner, ← same]
  exact owned

end Dispatcher

end RedisCluster
