import RedisCluster.Proofs.Discovery.Polls
import RedisCluster.Proofs.Topology.Roster

/-! One pass over the known nodes: whom a rediscovery asks, in which order, and what the answers make of
the routing table. -/

namespace RedisCluster.Discovery

open Program
open ClientState (Calm)

variable {translator : Translator} {state last : ClientState} {trace : Trace}

/-- What is made of an answer about the layout, by the place where it was asked for. -/
def reading (translator : Translator) (venue : Venue) (answer : Except ClientError Frame) :
    Except ClientError (List SlotRange) :=
  answer.bind (layout translator venue.endpoint)

/-- Asking a node for the layout is an inquiry, and a layout that can be read is loaded. -/
theorem refreshFrom_eq (translator : Translator) (pool : PoolRef) :
    refreshFrom translator pool = Program.bind (inquiry pool .layout) fun answer =>
      match reading translator (.pool pool) answer with
      | .error error => done (.error error)
      | .ok ranges => rebuild ranges :=
  inquire_eq_bind pool .layout fun answer =>
    match reading translator (.pool pool) answer with
    | .error error => done (.error error)
    | .ok ranges => rebuild ranges

/-- The layout of a node is loaded into an open table if it can be read, and otherwise the table stays
as it is. A node whose pool is closed is sent nothing. -/
theorem refreshFrom_polled (consistent : state.topology.Consistent)
    (accepting : state.topology.closed = false) {pool : PoolRef}
    {outcome : Except ClientError Unit}
    (run : Amid Calm (refreshFrom translator pool) state trace outcome last) :
    ∃ answer, trace.IsPoll .layout (.pool pool) answer ∧
      (trace.questions ≠ [] →
        ∃ found, state.topology.pool? pool.id = some found ∧ found.closed = false) ∧
      ((∃ error, reading translator (.pool pool) answer = .error error ∧ outcome = .error error ∧
          state.topology.Steady last.topology) ∨
        ∃ ranges, reading translator (.pool pool) answer = .ok ranges ∧ outcome = .ok () ∧
          state.topology.Loaded ranges last.topology) := by
  rw [refreshFrom_eq] at run
  obtain ⟨asking, loading, answer, middle, rfl, asked, loaded⟩ := amid_bind_iff.1 run
  have poll := isPoll_of_inquiry asked
  have steady := steady_of_calm asked (inquiry_steady pool .layout)
  have reached := open_of_inquiry asked
  cases read : reading translator (.pool pool) answer with
  | error error =>
    -- Nothing could be read, and nothing was loaded.
    rw [read] at loaded
    obtain ⟨rfl, rfl, rfl⟩ := amid_done_iff.1 loaded
    rw [List.append_nil]
    exact ⟨answer, poll, reached, .inl ⟨error, read, rfl, steady⟩⟩
  | ok ranges =>
    rw [read] at loaded
    obtain ⟨before, _, rest, calm, rfl, rebuilt⟩ := amid_ask_iff.1 loaded
    obtain ⟨rfl, rfl, rfl⟩ := amid_done_iff.1 rebuilt
    -- The layout is loaded into a table that is as consistent and as open as the first one.
    have steady := steady.trans calm
    have opened := steady.closed.trans accepting
    have settled := steady.consistent consistent
    obtain ⟨taken, _⟩ := Topology.rebuild_open opened settled ranges
    have loaded := (Topology.Loaded.rebuild opened settled ranges).of_steady steady
    refine ⟨answer, poll.append ⟨rfl, rfl⟩, fun sent => reached fun silent => sent ?_,
      .inr ⟨ranges, read, taken, loaded⟩⟩
    -- Loading the layout sends nothing.
    rw [Trace.questions_append, silent]
    rfl

/-- What has become of the table once some nodes were asked: it shows the layout of the one that was
found, and is as it was if none was. -/
def Settled (before after : Topology) (outcome : Option PoolRef) :
    Option (Venue × List SlotRange) → Prop
  | none => outcome = none ∧ before.Steady after
  | some (venue, ranges) =>
    ∃ pool, venue = .pool pool ∧ outcome = some pool ∧ before.Loaded ranges after

/-- Steps inside pools before the nodes are asked make no difference to what becomes of the table. -/
theorem Settled.of_steady {before middle after : Topology} {outcome : Option PoolRef}
    {found : Option (Venue × List SlotRange)} (steady : before.Steady middle)
    (settled : Settled middle after outcome found) : Settled before after outcome found := by
  cases found with
  -- Nobody was found before or after the steady steps.
  | none => exact ⟨settled.1, steady.trans settled.2⟩
  | some hit =>
    obtain ⟨pool, there, same, loaded⟩ := settled
    exact ⟨pool, there, same, loaded.of_steady steady⟩

/-- Nodes are asked in turn until the layout of one can be read, and that one is loaded. -/
theorem firstRefreshed_polled (consistent : state.topology.Consistent)
    (accepting : state.topology.closed = false) {pools : List PoolRef} {outcome : Option PoolRef}
    (run : Amid Calm (firstRefreshed translator pools) state trace outcome last) :
    ∃ found, Polled .layout (reading translator) (pools.map .pool) trace found ∧
      Settled state.topology last.topology outcome found := by
  -- Over the candidates: each of them finds the table as open and consistent as the first one did.
  induction pools generalizing state trace with
  | nil =>
    -- Without candidates there is nobody to ask.
    obtain ⟨rfl, rfl, rfl⟩ := amid_done_iff.1 run
    exact ⟨none, .nil ⟨rfl, rfl⟩, rfl, .refl _⟩
  | cons pool rest ih =>
    obtain ⟨first, others, refreshed, middle, rfl, asked, next⟩ := amid_bind_iff.1 run
    obtain ⟨answer, poll, _, outcomes⟩ := refreshFrom_polled consistent accepting asked
    rcases outcomes with ⟨error, bad, rfl, steady⟩ | ⟨ranges, good, rfl, loaded⟩
    -- The first one has failed and left the table as it was, so the others are asked on it.
    · obtain ⟨found, polled, settled⟩ :=
        ih (steady.consistent consistent) (steady.closed.trans accepting) next
      exact ⟨found, .rejected poll bad polled, .of_steady steady settled⟩
    -- The first one has answered with a layout, which is loaded.
    · obtain ⟨rfl, rfl, rfl⟩ := amid_done_iff.1 next
      rw [List.append_nil]
      exact ⟨some (.pool pool, ranges), .accepted poll good _, pool, rfl, rfl, loaded⟩

/-- Whom a pass may ask, in order: the preferred node and then every other known one. -/
def candidates (preferred : Option PoolRef) (order : List PoolRef) : List PoolRef :=
  -- Whoever was preferred has had its turn and is left out of the order.
  preferred.toList ++ order.filter fun pool => preferred.all fun other => pool.id ≠ other.id

/-- The known nodes that were not asked already are asked in turn, in any order. -/
theorem askOthers_polled (consistent : state.topology.Consistent)
    (accepting : state.topology.closed = false) {asked outcome : Option PoolRef}
    (run : Amid Calm (askOthers translator asked) state trace outcome last) :
    ∃ (order : List PoolRef) (found : Option (Venue × List SlotRange)), order.Perm state.topology.knownPools ∧
      Polled .layout (reading translator)
        ((order.filter fun pool => asked.all fun other => pool.id ≠ other.id).map .pool) trace found ∧
      Settled state.topology last.topology outcome found := by
  obtain ⟨before, order, rest, calm, rfl, turns⟩ := amid_ask_iff.1 run
  obtain ⟨found, polled, settled⟩ :=
    firstRefreshed_polled (calm.consistent consistent) (calm.closed.trans accepting) turns
  have rearranged := before.knownPools_perm order
  -- The order is one of the known pools of before, as the table has not changed since.
  rw [Topology.Steady.knownPools calm] at rearranged
  exact ⟨_, found, rearranged, polled.cons ⟨rfl, rfl⟩, .of_steady calm settled⟩

/-- A pass that begins with no node in particular asks the known ones. -/
theorem candidates_none (order : List PoolRef) : candidates none order = order := by
  simp [candidates]

/-- No pool has two turns in a pass. -/
theorem nodup_candidates {order : List PoolRef} (once : order.Nodup) (preferred : Option PoolRef) :
    (candidates preferred order).Nodup := by
  cases preferred with
  | none => rwa [candidates_none]
  | some pool =>
    refine List.nodup_cons.2 ⟨fun again => ?_, once.filter _⟩
    -- The preferred pool is left out of the others.
    simpa using (List.mem_filter.1 again).2

/-- No node has two turns in a pass over the known ones that begins with one of them. -/
theorem nodup_keys_candidates (consistent : state.topology.Consistent) (preferred : Option PoolRef)
    {order : List PoolRef} (rearranged : order.Perm state.topology.knownPools)
    (known : ∀ pool ∈ preferred, pool ∈ state.topology.knownPools) :
    (((candidates preferred order).map Venue.pool).map fun venue => venue.endpoint.nodeKey).Nodup := by
  have keys : (order.map fun pool => pool.endpoint.nodeKey).Nodup :=
    (rearranged.map _).nodup_iff.2 consistent.nodup_keys
  rw [List.map_map]
  cases preferred with
  -- No node is preferred, and the known ones have different keys.
  | none => rwa [candidates_none]
  | some pool =>
    refine List.nodup_cons.2 ⟨fun again => ?_, (List.filter_sublist.map _).nodup keys⟩
    obtain ⟨other, left, same⟩ := List.mem_map.1 again
    obtain ⟨listed, apart⟩ := List.mem_filter.1 left
    -- One node has one pool, and the preferred one is left out of the others.
    have twin := List.inj_on_of_nodup_map keys listed (rearranged.mem_iff.2 (known pool rfl)) same
    simp [twin] at apart

/-- A pass asks the preferred node first and then every other known one, and no node gets the question
twice. -/
theorem pass_polled (consistent : state.topology.Consistent)
    (accepting : state.topology.closed = false) {preferred outcome : Option PoolRef}
    (obtained : ∀ pool ∈ preferred, state.topology.Made pool)
    (run : Amid Calm (pass translator preferred) state trace outcome last) :
    ∃ (order : List PoolRef) (found : Option (Venue × List SlotRange)),
      order.Perm state.topology.knownPools ∧
      Polled .layout (reading translator) ((candidates preferred order).map .pool) trace found ∧
      (trace.questions.map fun question => question.1.endpoint.nodeKey).Nodup ∧
      Settled state.topology last.topology outcome found := by
  cases preferred with
  | none =>
    obtain ⟨order, found, rearranged, polled, settled⟩ := askOthers_polled consistent accepting run
    -- Without a preference each known node has its one turn.
    have apart := nodup_keys_candidates consistent none rearranged nofun
    exact ⟨order, found, rearranged, polled, polled.nodup_questions apart, settled⟩
  | some pool =>
    obtain ⟨first, others, refreshed, middle, rfl, asked, next⟩ := amid_bind_iff.1 run
    obtain ⟨answer, poll, reached, outcomes⟩ := refreshFrom_polled consistent accepting asked
    rcases outcomes with ⟨error, bad, rfl, steady⟩ | ⟨ranges, good, rfl, loaded⟩
    · obtain ⟨order, found, rearranged, polled, settled⟩ :=
        askOthers_polled (steady.consistent consistent) (steady.closed.trans accepting) next
      rw [steady.knownPools] at rearranged
      have whole := Polled.rejected poll bad polled
      refine ⟨order, found, rearranged, whole, ?_, .of_steady steady settled⟩
      by_cases sent : first.questions = []
      · -- The preferred pool was closed meanwhile, or could not be used, so its node is asked later.
        rw [Trace.questions_append, sent, List.nil_append]
        have apart := nodup_keys_candidates consistent none rearranged nofun
        rw [candidates_none] at apart
        exact polled.nodup_questions (((List.filter_sublist.map _).map _).nodup apart)
      -- The preferred pool was open, so it is one of the known ones and left out of the others.
      · obtain ⟨current, present, accepts⟩ := reached sent
        have mem := consistent.mem_knownPools (obtained pool rfl) present accepts
        have mem_preferred : ∀ other ∈ some pool, other ∈ state.topology.knownPools := by
          rintro other ⟨⟩
          exact mem
        exact whole.nodup_questions (nodup_keys_candidates consistent (some pool) rearranged mem_preferred)
    -- The first answer was good, and only one question was sent.
    · obtain ⟨rfl, rfl, rfl⟩ := amid_done_iff.1 next
      rw [List.append_nil]
      have single := (poll.questions.map fun question => question.1.endpoint.nodeKey).nodup
        (List.nodup_singleton _)
      exact ⟨_, some (.pool pool, ranges), .refl _, .accepted poll good _, single, pool, rfl, rfl, loaded⟩

/-- A rediscovery, while nobody else changes the routing table, asks the preferred node first, also if
its pool was closed since, and then every other known one, each at most once, up to and including the
first whose layout can be read. Then the table shows that layout; if there is none it is as it was. Where
another rediscovery is under way, nobody is asked. -/
theorem rediscover_asks_in_turn {preferred : Option PoolRef} {outcome : Rediscovery}
    (consistent : state.topology.Consistent) (accepting : state.topology.closed = false)
    (obtained : ∀ pool ∈ preferred, state.topology.Made pool)
    (run : Amid Calm (rediscover translator preferred) state trace outcome last) :
    (outcome = .alreadyInProgress ∧ trace = [⟨.beginRediscovery, false⟩] ∧
        state.topology.Steady last.topology) ∨
      ∃ (order : List PoolRef) (found : Option (Venue × List SlotRange)),
        order.Perm state.topology.knownPools ∧
        (candidates preferred order).Nodup ∧
        Polled .layout (reading translator) ((candidates preferred order).map .pool) trace found ∧
        (trace.questions.map fun question => question.1.endpoint.nodeKey).Nodup ∧
        (outcome = .exhausted ↔
          ∀ poll ∈ trace.polls, (reading translator poll.1 poll.2).isOk = false) ∧
        match found with
        | none => outcome = .exhausted ∧ last.topology.slots = state.topology.slots ∧
            last.topology.nodes = state.topology.nodes
        | some (venue, ranges) =>
            outcome = .refreshed venue.endpoint ∧ state.topology.Loaded ranges last.topology := by
  obtain ⟨before, _, rest, calm, rfl, started⟩ := amid_ask_iff.1 run
  have begins : before.topology.Steady (before.perform .beginRediscovery ()).2.topology :=
    ClientState.steady_perform rfl before ()
  generalize begun : before.perform .beginRediscovery () = begin at started begins
  obtain ⟨answer, now⟩ := begin
  have steady := Topology.Steady.trans calm begins
  cases answer with
  -- The flag was up, and the pass is refused.
  | false =>
    obtain ⟨rfl, rfl, rfl⟩ := amid_done_iff.1 started
    exact .inl ⟨rfl, rfl, steady⟩
  | true =>
    simp only [bind_done, if_pos] at started
    obtain ⟨passing, _, hit, middle, rfl, passed, ending⟩ := amid_bind_iff.1 started
    obtain ⟨order, found, rearranged, polled, once, settled⟩ :=
      pass_polled (steady.consistent consistent) (steady.closed.trans accepting)
        (fun pool preferred => steady.made (obtained pool preferred)) passed
    rw [steady.knownPools] at rearranged
    obtain ⟨later, _, rest, after, rfl, ended⟩ := amid_ask_iff.1 ending
    have ends : middle.topology.Steady (later.perform .endRediscovery ()).2.topology :=
      Topology.Steady.trans after (ClientState.steady_perform rfl later ())
    -- Known pools are in the table once, in whatever order they are told.
    have once_known : order.Nodup := rearranged.nodup_iff.2 consistent.nodup_knownPools
    -- Neither the first nor the last step asks anybody.
    have whole : Polled .layout (reading translator) ((candidates preferred order).map .pool)
        (⟨.beginRediscovery, true⟩ :: (passing ++ [⟨.endRediscovery, ()⟩])) found :=
      (polled.append ⟨rfl, rfl⟩).cons ⟨rfl, rfl⟩
    have same : Trace.questions (⟨.beginRediscovery, true⟩ :: (passing ++ [⟨.endRediscovery, ()⟩])) =
        passing.questions := by
      rw [Trace.Unpolled.questions_cons ⟨rfl, rfl⟩, Trace.Unpolled.questions_append ⟨rfl, rfl⟩]
    have exhausted := whole.eq_none_iff
    cases found with
    -- Nobody was found, so the steps were steady from the first to the last.
    | none =>
      obtain ⟨rfl, unchanged⟩ := settled
      obtain ⟨rfl, rfl, rfl⟩ := amid_done_iff.1 ended
      have still := (steady.trans unchanged).trans ends
      refine .inr ⟨order, none, rearranged, nodup_candidates once_known preferred, whole, same ▸ once,
        ?_, rfl, still.slots, still.nodes⟩
      exact iff_of_true rfl (exhausted.1 rfl)
    -- The layout that was found is still shown once the pass has ended.
    | some hit =>
      obtain ⟨pool, there, rfl, loaded⟩ := settled
      obtain ⟨rfl, rfl, rfl⟩ := amid_done_iff.1 ended
      refine .inr ⟨order, some hit, rearranged, nodup_candidates once_known preferred, whole, same ▸ once,
        ?_, by rw [there]; rfl, (loaded.of_steady steady).steady ends⟩
      exact iff_of_false nofun fun fruitless => nomatch exhausted.2 fruitless

/-- A client that was reset while a caller went on holding the pool of a node, and knows two other nodes
since. -/
def regrouped : ClientState where
  topology := ((({ config := {} : Topology }.register ⟨"127.0.0.1", 7000⟩).2.reset.register
    ⟨"127.0.0.1", 7001⟩).2.register ⟨"127.0.0.1", 7002⟩).2

/-- Nodes of which one cannot be reached, while the others report who serves three slots. -/
def limping : (op : Op) → op.Choice :=
  Op.surroundings
    (fun node => if node.port = 7001 then .error (.io "connection refused") else .ok ())
    fun _ _ => .ok (Layout.toReply [(3, 5, ⟨"127.0.0.1", 7003⟩)])

/-- A rediscovery that prefers the node of the closed pool. -/
def regroupedPass : Rediscovery × ClientState × Trace :=
  play limping (rediscover .identity (some ⟨0, ⟨"127.0.0.1", 7000⟩⟩)) regrouped

/-- A closed pool and a node that cannot be reached have their turns before the node whose layout is
loaded. -/
theorem rediscover_asks_in_turn_past_failures :
    regroupedPass.1 = .refreshed ⟨"127.0.0.1", 7002⟩ ∧
      regroupedPass.2.2.polls.map Prod.fst = [.pool ⟨0, ⟨"127.0.0.1", 7000⟩⟩,
        .pool ⟨1, ⟨"127.0.0.1", 7001⟩⟩, .pool ⟨2, ⟨"127.0.0.1", 7002⟩⟩] ∧
      regroupedPass.2.1.topology.OwnedBy 3 ⟨"127.0.0.1", 7003⟩ ∧
      regroupedPass.2.1.topology.owner 6 = none ∧
      regroupedPass.2.1.topology.knownNodes =
        [⟨"127.0.0.1", 7001⟩, ⟨"127.0.0.1", 7002⟩, ⟨"127.0.0.1", 7003⟩] := by
  have consistent : regrouped.topology.Consistent :=
    (((Topology.consistent_new {}).register ⟨"127.0.0.1", 7000⟩).reset.register
      ⟨"127.0.0.1", 7001⟩).register ⟨"127.0.0.1", 7002⟩
  have accepting : regrouped.topology.closed = false := by decide +kernel
  have obtained : ∀ pool ∈ some (⟨0, ⟨"127.0.0.1", 7000⟩⟩ : PoolRef), regrouped.topology.Made pool := by
    intro pool member
    rw [← Option.mem_some_iff.1 member]
    have first : (({ config := {} : Topology }.register ⟨"127.0.0.1", 7000⟩).2).Made
        ⟨0, ⟨"127.0.0.1", 7000⟩⟩ := (Topology.consistent_new {}).made_of_register rfl
    -- The first node was registered, forgotten by the reset, and its pool is still there.
    exact (first.reset.register ⟨"127.0.0.1", 7001⟩).register ⟨"127.0.0.1", 7002⟩
  have run : Alone (rediscover .identity (some ⟨0, ⟨"127.0.0.1", 7000⟩⟩)) regrouped regroupedPass.2.2
      regroupedPass.1 regroupedPass.2.1 := alone_play _ _ _
  have outcome : regroupedPass.1 = .refreshed ⟨"127.0.0.1", 7002⟩ := by decide +kernel
  have polls : regroupedPass.2.2.polls =
      [(.pool ⟨0, ⟨"127.0.0.1", 7000⟩⟩, .error (.poolClosed "localhost:7000")),
        (.pool ⟨1, ⟨"127.0.0.1", 7001⟩⟩, .error (.io "connection refused")),
        (.pool ⟨2, ⟨"127.0.0.1", 7002⟩⟩, .ok (Layout.toReply [(3, 5, ⟨"127.0.0.1", 7003⟩)]))] := by
    decide +kernel
  have before : regrouped.topology.knownNodes = [⟨"127.0.0.1", 7001⟩, ⟨"127.0.0.1", 7002⟩] := by
    decide +kernel
  -- Nothing else about the session matters.
  generalize regroupedPass = session at run outcome polls ⊢
  rcases rediscover_asks_in_turn consistent accepting obtained run.calm with
    ⟨busy, _⟩ | ⟨order, found, _, _, polled, _, _, settled⟩
  · simp [outcome] at busy
  · cases found with
    -- The outcome says that a node was found.
    | none => simp [outcome] at settled
    | some hit =>
      -- The layout that was accepted is the answer of the last node.
      have good := polled.judge_last (by rw [polls]; rfl)
      have read : reading .identity (.pool ⟨2, ⟨"127.0.0.1", 7002⟩⟩)
          (.ok (Layout.toReply [(3, 5, ⟨"127.0.0.1", 7003⟩)])) =
            .ok [⟨3, 5, ⟨"127.0.0.1", 7003⟩, []⟩] := by
        decide +kernel
      rw [read, Except.ok.injEq] at good
      obtain ⟨_, loaded⟩ := settled
      rw [← good] at loaded
      -- The three facts about the table are read off the layout that it shows.
      have third := loaded.owners 3 (by decide)
      have sixth := loaded.owners 6 (by decide)
      have known := loaded.known
      rw [before] at known
      exact ⟨outcome, by rw [polls]; rfl, third, sixth, known.trans (by decide +kernel)⟩

end RedisCluster.Discovery
