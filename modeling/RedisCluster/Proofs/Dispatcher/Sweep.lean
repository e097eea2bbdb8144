import RedisCluster.Proofs.Discovery.Pass

/-! How the node for an attempt is found: by the table if it can, after one rediscovery if that helps, and
otherwise by pinging the known nodes. -/

namespace RedisCluster.Dispatcher

open Program
open ClientState (Calm)

variable {dispatcher : Dispatcher} {state last : ClientState} {trace : Trace} {slot : Option Nat}

/-- What is made of an answer to a ping, wherever it comes from. -/
def pong (_ : Venue) (answer : Except ClientError Frame) : Except ClientError Unit :=
  answer.bind expectPong

/-- What a ping has come to, if it has not shown that the node is alive. -/
def objection? (answer : Except ClientError Frame) : Option ClientError :=
  match answer.bind expectPong with
  | .error error => some error
  | .ok () => none

/-- Something speaks against a node exactly if its answer is not accepted. -/
theorem objection?_eq_none_iff {venue : Venue} {answer : Except ClientError Frame} :
    objection? answer = none ↔ (pong venue answer).isOk = true := by
  -- Both look at the answer in the same way.
  unfold objection? pong
  cases answer.bind expectPong <;> simp [Except.isOk, Except.toBool]

/-- A ping is an inquiry. -/
theorem ping_eq (pool : PoolRef) :
    ping pool = Program.bind (inquiry pool .ping) fun answer => done (pong (.pool pool) answer) :=
  inquire_eq_bind pool .ping fun answer => done (pong (.pool pool) answer)

/-- A ping is one poll of the node, and leaves the table alone. -/
theorem ping_polled {pool : PoolRef} {outcome : Except ClientError Unit}
    (run : Amid Calm (ping pool) state trace outcome last) :
    ∃ answer, trace.IsPoll .ping (.pool pool) answer ∧ outcome = pong (.pool pool) answer ∧
      state.topology.Steady last.topology := by
  -- Asking is the poll, and what is made of the answer takes no step.
  rw [ping_eq] at run
  obtain ⟨asking, rest, answer, middle, rfl, asked, ended⟩ := amid_bind_iff.1 run
  obtain ⟨rfl, rfl, rfl⟩ := amid_done_iff.1 ended
  rw [List.append_nil]
  exact ⟨answer, isPoll_of_inquiry asked, rfl, steady_of_calm asked (inquiry_steady pool .ping)⟩

/-- Nodes are pinged in turn until one shows that it is alive; if none does, the first failure is the
cause of the error, unless there was an earlier one. -/
theorem firstAlive_polled {failure : Option ClientError} {pools : List PoolRef}
    {outcome : Except ClientError PoolRef}
    (run : Amid Calm (firstAlive failure pools) state trace outcome last) :
    ∃ found : Option (Venue × Unit), Polled .ping pong (pools.map .pool) trace found ∧
      state.topology.Steady last.topology ∧
      match found with
      | some (venue, ()) => ∃ pool, venue = .pool pool ∧ outcome = .ok pool
      | none => outcome = .error (.noReachableNode
          (failure <|> trace.polls.head?.bind fun poll => objection? poll.2)) := by
  -- Over the candidates: each failure is remembered only if there was none before it.
  induction pools generalizing failure state trace with
  | nil =>
    -- Nobody is left, and what failed first has been kept all the time.
    obtain ⟨rfl, rfl, rfl⟩ := amid_done_iff.1 run
    exact ⟨none, .nil ⟨rfl, rfl⟩, .refl _, by cases failure <;> rfl⟩
  | cons pool rest ih =>
    obtain ⟨first, others, answered, middle, rfl, pinged, next⟩ := amid_bind_iff.1 run
    obtain ⟨answer, poll, rfl, steady⟩ := ping_polled pinged
    -- The node answered `PONG`, so it is used and nobody else is asked.
    cases judged : pong (.pool pool) answer with
    | ok alive =>
      rw [judged] at next
      obtain ⟨rfl, rfl, rfl⟩ := amid_done_iff.1 next
      rw [List.append_nil]
      exact ⟨some (.pool pool, ()), .accepted poll judged _, steady, pool, rfl, rfl⟩
    | error error =>
      rw [judged] at next
      -- The node failed, so the others decide.
      obtain ⟨found, polled, calm, told⟩ := ih next
      refine ⟨found, .rejected poll judged polled, steady.trans calm, ?_⟩
      cases found with
      | some hit => exact told
      | none =>
        have objection : objection? answer = some error := by
          have bad : answer.bind expectPong = .error error := judged
          rw [objection?, bad]
        have head : (first ++ others).polls.head? = some (.pool pool, answer) := by
          rw [Trace.polls_append, poll.polls]
          rfl
        rw [told, head, Option.bind_some, objection]
        -- With this failure remembered, those of the others do not matter.
        cases failure <;> rfl

/-- The known nodes were pinged in some order, each at most once, up to and including the first that
answered `PONG`, which was used. If none did, the error has the failure of the first one for its cause.
The routing table is left alone. -/
def Swept (topology : Topology) (trace : Trace) (outcome : Except ClientError PoolRef)
    (after : Topology) : Prop :=
  -- The order is that of the visits, and what was found is the last one visited.
  ∃ (order : List PoolRef) (found : Option (Venue × Unit)),
    order.Perm topology.knownPools ∧ order.Nodup ∧ topology.Steady after ∧
    Polled .ping pong (order.map .pool) trace found ∧
    match found with
    | some (venue, ()) => ∃ pool, venue = .pool pool ∧ outcome = .ok pool ∧
        trace.polls.getLast? = some (venue, .ok (.simple "PONG"))
    | none => ∃ cause, outcome = .error (.noReachableNode cause) ∧
        cause = (trace.polls.head?.bind fun poll => objection? poll.2) ∧
        (cause = none ↔ topology.knownPools = [])

/-- A step that asks nobody may come before a sweep. -/
theorem Swept.cons {topology after : Topology} {outcome : Except ClientError PoolRef}
    {exchange : Exchange} (swept : Swept topology trace outcome after)
    (silent : Trace.Unpolled [exchange]) : Swept topology (exchange :: trace) outcome after := by
  obtain ⟨order, found, rearranged, once, steady, polled, told⟩ := swept
  refine ⟨order, found, rearranged, once, steady, polled.cons silent, ?_⟩
  -- A step that polls nobody adds no poll to the trace.
  rw [silent.polls_cons]
  exact told

/-- An open client that looks for a node that is alive sweeps over the known ones. -/
theorem fallback_swept (consistent : state.topology.Consistent)
    (accepting : state.topology.closed = false) {outcome : Except ClientError PoolRef}
    (run : Amid Calm fallback state trace outcome last) :
    Swept state.topology trace outcome last.topology := by
  -- The look at the flag and the list of nodes come first.
  obtain ⟨before, _, rest, calm, rfl, checked⟩ := amid_ask_iff.1 run
  have open_ : (before.perform .isClosed ()).1 = false := (Topology.Steady.closed calm).trans accepting
  rw [open_] at checked ⊢
  obtain ⟨now, order, rest, still, rfl, sweeping⟩ := amid_ask_iff.1 checked
  obtain ⟨found, polled, after, told⟩ := firstAlive_polled sweeping
  have steady := Topology.Steady.trans calm still
  -- The list may come in any order, and has each node once.
  have rearranged := now.knownPools_perm order
  rw [steady.knownPools] at rearranged
  have once := rearranged.nodup_iff.2 consistent.nodup_knownPools
  refine Swept.cons (Swept.cons ?_ ⟨rfl, rfl⟩) ⟨rfl, rfl⟩
  refine ⟨_, found, rearranged, once, steady.trans after, polled, ?_⟩
  cases found with
  | some hit =>
    obtain ⟨pool, there, answered⟩ := told
    -- Only `PONG` is accepted.
    obtain ⟨answer, final, good⟩ := polled.getLast_polls
    rw [pong_iff.1 good] at final
    exact ⟨pool, there, answered, final⟩
  | none =>
    refine ⟨_, told, rfl, ?_⟩
    -- Without a hit every candidate was polled.
    have lengths := congrArg List.length polled.candidates_of_none
    rw [List.length_map, List.length_map, rearranged.length_eq] at lengths
    rw [← List.length_eq_zero_iff, lengths, List.length_eq_zero_iff]
    cases asked : Trace.polls rest with
    | nil => exact iff_of_true rfl rfl
    | cons poll others =>
      -- The first node was asked in vain, so something speaks against it.
      have bad := polled.eq_none_iff.1 rfl poll (by simp [asked])
      refine iff_of_false (fun nothing => ?_) (by simp)
      rw [objection?_eq_none_iff.1 nothing] at bad
      cases bad

/-- A rediscovery takes its turn unless another one is under way. -/
theorem starts_of_idle {translator : Translator} {preferred : Option PoolRef} {outcome : Rediscovery}
    (idle : state.rediscovering = false)
    (run : Alone (Discovery.rediscover translator preferred) state trace outcome last) :
    outcome ≠ .alreadyInProgress := by
  -- The flag is free, so this rediscovery takes it.
  obtain ⟨_, rest, -, started⟩ := alone_ask_iff.1 run
  have free : (state.perform .beginRediscovery ()).1 = true := by
    simp [ClientState.perform, idle]
  rw [free] at started
  simp only [bind_done, if_pos] at started
  obtain ⟨_, _, found, middle, -, -, ending⟩ := amid_bind_iff.1 started
  obtain ⟨_, _, -, ended⟩ := alone_ask_iff.1 ending
  -- A pass ends with a node or without one, and in neither case with a refusal.
  cases found with
  | none =>
    obtain ⟨_, rfl, _⟩ := amid_done_iff.1 ended
    exact Rediscovery.noConfusion
  | some pool =>
    obtain ⟨_, rfl, _⟩ := amid_done_iff.1 ended
    exact Rediscovery.noConfusion

/-- A rediscovery asks for nothing but the layout. -/
theorem layout_of_rediscover {translator : Translator} {preferred : Option PoolRef}
    {outcome : Rediscovery}
    (run : Alone (Discovery.rediscover translator preferred) state trace outcome last) :
    ∀ question ∈ trace.questions, question.2 = .layout := by
  -- Each question is a request that was sent within the rediscovery.
  intro question asked
  obtain ⟨sent, listed, rfl⟩ := List.mem_map.1 asked
  obtain ⟨exchange, member, shown⟩ := List.mem_filterMap.1 listed
  have reloads := run.within (Discovery.rediscover_reloading translator preferred) exchange member
  rcases exchange with ⟨op, answer⟩
  cases op with
  | send lease request =>
    obtain rfl := Option.some.inj shown
    -- Requests other than for the layout are not among its steps.
    cases request <;> first | rfl | simp [Op.isReloading] at reloads
  | _ => cases shown

/-- A step that only looks at the state is answered from it, and leaves it as it is. -/
theorem rest_of_look {α : Type} {op : Op} {answer : op.Answer} {next : op.Answer → Program α}
    {value : α} (looks : ∀ choice, state.perform op choice = (answer, state))
    (run : Alone (Program.ask op next) state trace value last) :
    ∃ rest, trace = ⟨op, answer⟩ :: rest ∧ Alone (next answer) state rest value last := by
  obtain ⟨choice, rest, same, after⟩ := alone_ask_iff.1 run
  rw [looks choice] at same after
  exact ⟨rest, same, after⟩

/-- No node is counted exactly if none is known. -/
theorem length_nodes_eq_zero_iff (topology : Topology) :
    topology.nodes.length = 0 ↔ topology.knownPools = [] := by
  rw [List.length_eq_zero_iff, Topology.knownPools, List.map_eq_nil_iff]

section ownerPool

variable {own : Nat} {outcome : Except ClientError PoolRef}
  (run : Alone (dispatcher.ownerPool (some own)) state trace outcome last)

include run

/-- The owner of a slot is used after one look at the table. -/
theorem ownerPool_of_owner {pool : PoolRef} (owns : state.topology.owner own = some pool) :
    outcome = .ok pool ∧ trace = [⟨.owner own, some pool⟩] ∧ last = state := by
  -- The table is looked at once, and its answer is the end.
  obtain ⟨rest, rfl, looked⟩ := rest_of_look (fun _ => rfl) run
  rw [owns] at looked ⊢
  obtain ⟨rfl, rfl, rfl⟩ := amid_done_iff.1 looked
  exact ⟨rfl, rfl, rfl⟩

/-- For a slot without an owner the known nodes are counted, and what follows depends on whether there are
any. -/
theorem ownerPool_of_unowned (unowned : state.topology.owner own = none) :
    ∃ rest, trace = ⟨.owner own, none⟩ :: ⟨.nodeCount, state.topology.nodes.length⟩ :: rest ∧
      (state.topology.knownPools = [] → Alone fallback state rest outcome last) ∧
      (state.topology.knownPools ≠ [] → ∃ reloading refreshed middle again,
        rest = reloading ++ ⟨.owner own, middle.topology.owner own⟩ :: again ∧
          Alone (Discovery.rediscover dispatcher.translator none) state reloading refreshed middle ∧
          match middle.topology.owner own with
          | some pool => outcome = .ok pool ∧ again = [] ∧ last = middle
          | none => Alone fallback middle again outcome last) := by
  -- The slot is looked up and the nodes are counted; both only look at the state.
  obtain ⟨counting, rfl, looked⟩ := rest_of_look (fun _ => rfl) run
  rw [unowned] at looked ⊢
  obtain ⟨rest, rfl, counted⟩ := rest_of_look (fun _ => rfl) looked
  simp only [bind_done] at counted
  refine ⟨rest, rfl, fun nobody => ?_, fun somebody => ?_⟩
  · rwa [if_pos ((length_nodes_eq_zero_iff _).2 nobody)] at counted
  · rw [if_neg fun empty => somebody ((length_nodes_eq_zero_iff _).1 empty)] at counted
    -- After the rediscovery the slot is looked up once more, in the state that it has led to.
    obtain ⟨reloading, _, refreshed, middle, rfl, reload, second⟩ := amid_bind_iff.1 counted
    obtain ⟨again, rfl, ended⟩ := rest_of_look (fun _ => rfl) second
    refine ⟨reloading, refreshed, middle, again, rfl, reload, ?_⟩
    cases given : middle.topology.owner own with
    | some pool =>
      rw [given] at ended
      obtain ⟨rfl, rfl, rfl⟩ := amid_done_iff.1 ended
      exact ⟨rfl, rfl, rfl⟩
    | none =>
      rw [given] at ended
      exact ended

end ownerPool

/-- The node for an attempt that no temporary redirect has led to, if no other task runs. The owner of the
slot is used as it is. For a slot without an owner the layout is asked for in exactly one rediscovery, if
any node is known, and if that gives the slot an owner it is used without any ping. In all other cases the
known nodes are pinged. -/
theorem choose_owner_routes (consistent : state.topology.Consistent)
    (accepting : state.topology.closed = false) {chosen : Except ClientError (PoolRef × Bool)}
    (run : Alone (dispatcher.choose slot .owner) state trace chosen last) :
    ∃ outcome : Except ClientError PoolRef, chosen = outcome.map (fun pool => (pool, false)) ∧
      (∀ own pool, slot = some own → state.topology.owner own = some pool →
        outcome = .ok pool ∧ trace.questions = [] ∧ last = state) ∧
      (∀ own, slot = some own → state.topology.owner own = none → state.topology.knownPools ≠ [] →
        ∃ reloading refreshed middle rest,
          trace = ⟨.owner own, none⟩ :: ⟨.nodeCount, state.topology.nodes.length⟩ ::
            (reloading ++ ⟨.owner own, middle.topology.owner own⟩ :: rest) ∧
          Alone (Discovery.rediscover dispatcher.translator none) state reloading refreshed middle ∧
          (state.rediscovering = false → refreshed ≠ .alreadyInProgress) ∧
          (∀ question ∈ Trace.questions reloading, question.2 = .layout) ∧
          match middle.topology.owner own with
          | some pool => outcome = .ok pool ∧ rest = [] ∧ last = middle
          | none => Swept middle.topology rest outcome last.topology) ∧
      ((slot = none ∨ ∃ own, slot = some own ∧ state.topology.owner own = none ∧
          state.topology.knownPools = []) →
        Swept state.topology trace outcome last.topology) := by
  -- What is made of the pool takes no step.
  obtain ⟨finding, _, outcome, middle, rfl, found, ended⟩ := amid_bind_iff.1 run
  obtain ⟨rfl, rfl, rfl⟩ := amid_done_iff.1 ended
  rw [List.append_nil]
  refine ⟨outcome, rfl, ?_⟩
  cases slot with
  -- Without a slot the sweep is all.
  | none =>
    have swept := fallback_swept consistent accepting (Alone.calm found)
    exact ⟨nofun, nofun, fun _ => swept⟩
  | some own =>
    cases owns : state.topology.owner own with
    | some pool =>
      -- With an owner nothing is asked of anybody, so the other two cases do not apply.
      obtain ⟨rfl, rfl, rfl⟩ := ownerPool_of_owner found owns
      refine ⟨?_, ?_, ?_⟩
      · rintro _ _ ⟨⟩ same
        rw [owns] at same
        exact ⟨by rw [Option.some.inj same], rfl, rfl⟩
      · rintro _ ⟨⟩ unowned
        simp [owns] at unowned
      · rintro (⟨⟨⟩⟩ | ⟨_, ⟨⟩, unowned, _⟩)
        simp [owns] at unowned
    | none =>
      -- Without an owner the count of nodes tells the two cases apart.
      obtain ⟨rest, rfl, unknown, known⟩ := ownerPool_of_unowned found owns
      refine ⟨?_, ?_, ?_⟩
      · rintro _ _ ⟨⟩ same
        simp [owns] at same
      · rintro _ ⟨⟩ _ somebody
        obtain ⟨reloading, refreshed, middle, again, rfl, reload, settled⟩ := known somebody
        -- The rediscovery keeps the table consistent and open, so the sweep behind it is a whole
        -- one.
        obtain ⟨recorded, _⟩ := Discovery.rediscover_recorded [] consistent accepting reload
        have still : middle.topology.closed = false := recorded.closed.trans accepting
        refine ⟨reloading, refreshed, middle, again, rfl, reload,
          fun idle => starts_of_idle idle reload, layout_of_rediscover reload, ?_⟩
        cases given : middle.topology.owner own with
        | some pool => rwa [given] at settled
        | none =>
          rw [given] at settled
          exact fallback_swept recorded.consistent still (Alone.calm settled)
      · rintro (⟨⟨⟩⟩ | ⟨_, _, _, nobody⟩)
        have swept := fallback_swept consistent accepting (Alone.calm (unknown nobody))
        -- Neither looking the slot up nor counting the nodes asks anybody.
        exact (swept.cons ⟨rfl, rfl⟩).cons ⟨rfl, rfl⟩

/-- A client that knows two nodes and no owner of any slot. -/
def unassigned : ClientState where
  topology := (({ config := {} : Topology }.register ⟨"127.0.0.1", 7001⟩).2.register
    ⟨"127.0.0.1", 7002⟩).2

/-- Nodes of which one cannot be reached, while the others are alive and report who serves three slots. -/
def responsive : (op : Op) → op.Choice :=
  Op.surroundings
    (fun node => if node.port = 7001 then .error (.io "connection refused") else .ok ())
    fun _ request =>
      match request with
      | .ping => .ok (.simple "PONG")
      | _ => .ok (Layout.toReply [(3, 5, ⟨"127.0.0.1", 7003⟩)])

/-- That client looks for the node of a slot, or for any node. -/
def choice (slot : Option Nat) : Except ClientError (PoolRef × Bool) × ClientState × Trace :=
  play responsive ((Dispatcher.new .identity 2).choose slot .owner) unassigned

/-- A slot without an owner gets one from the second node that is asked for the layout, and nobody is
pinged; without a slot the same node is found by a sweep. -/
theorem choose_owner_routes_past_failure :
    ((choice (some 4)).1 = .ok (⟨2, ⟨"127.0.0.1", 7003⟩⟩, false) ∧
      ∀ question ∈ (choice (some 4)).2.2.questions, question.2 = .layout) ∧
    (choice none).1 = .ok (⟨1, ⟨"127.0.0.1", 7002⟩⟩, false) ∧
      Swept unassigned.topology (choice none).2.2 (.ok ⟨1, ⟨"127.0.0.1", 7002⟩⟩)
        (choice none).2.1.topology := by
  -- The client was made by registering two nodes.
  have consistent : unassigned.topology.Consistent :=
    ((Topology.consistent_new {}).register ⟨"127.0.0.1", 7001⟩).register ⟨"127.0.0.1", 7002⟩
  have accepting : unassigned.topology.closed = false := by decide +kernel
  have run : ∀ slot, Alone ((Dispatcher.new .identity 2).choose slot .owner) unassigned
      (choice slot).2.2 (choice slot).1 (choice slot).2.1 := fun slot => alone_play _ _ _
  refine ⟨?_, ?_⟩
  · have chosen : (choice (some 4)).1 = .ok (⟨2, ⟨"127.0.0.1", 7003⟩⟩, false) := by decide +kernel
    have given : (choice (some 4)).2.1.topology.owner 4 = some ⟨2, ⟨"127.0.0.1", 7003⟩⟩ := by
      decide +kernel
    have unowned : unassigned.topology.owner 4 = none := by decide +kernel
    have known : unassigned.topology.knownPools ≠ [] := by decide +kernel
    have run := run (some 4)
    -- Nothing else about the session matters.
    generalize choice (some 4) = session at run chosen given ⊢
    obtain ⟨outcome, _, _, reloads, _⟩ := choose_owner_routes consistent accepting run
    obtain ⟨reloading, refreshed, middle, rest, whole, _, _, layouts, settled⟩ :=
      reloads 4 rfl unowned known
    refine ⟨chosen, ?_⟩
    cases owns : middle.topology.owner 4 with
    | some pool =>
      rw [owns] at settled whole
      obtain ⟨_, rfl, _⟩ := settled
      rw [whole, Trace.Unpolled.questions_cons ⟨rfl, rfl⟩, Trace.Unpolled.questions_cons ⟨rfl, rfl⟩,
        Trace.Unpolled.questions_append ⟨rfl, rfl⟩]
      exact layouts
    | none =>
      -- A sweep would not have given the slot an owner.
      rw [owns] at settled
      obtain ⟨_, _, _, _, steady, _⟩ := settled
      rw [steady.owner, owns] at given
      cases given
  -- Without a slot the second node is the first to answer the sweep.
  · have chosen : (choice none).1 = .ok (⟨1, ⟨"127.0.0.1", 7002⟩⟩, false) := by decide +kernel
    have run := run none
    generalize choice none = session at run chosen ⊢
    obtain ⟨outcome, same, _, _, sweeps⟩ := choose_owner_routes consistent accepting run
    obtain rfl : outcome = .ok ⟨1, ⟨"127.0.0.1", 7002⟩⟩ := by
      rw [chosen] at same
      cases outcome <;> simp [Except.map] at same
      rw [← same]
    exact ⟨chosen, sweeps (.inl rfl)⟩

end RedisCluster.Dispatcher
