import RedisCluster.Proofs.Client.Jobs
import RedisCluster.Proofs.Endpoint.Naming
import RedisCluster.Proofs.Program.Turns
import RedisCluster.Proofs.Topology.Origins

/-! The addresses that a client uses: those that it was built with, and those that nodes have named to it,
each of them translated before anything is done with it. -/

namespace RedisCluster

/-- The pools that a step asks for a connection. -/
def Op.pools : Op → List PoolRef
  | .enter pool | .awaitPermit pool _ | .takeIdle pool _ | .connect pool _ => [pool]
  | _ => []

/-- A step that neither registers a node nor asks for a connection. -/
def Op.isFree : Op → Bool
  | .register _ | .assign _ _ | .rebuild _ | .enter _ | .awaitPermit _ _ | .takeIdle _ _
  | .connect _ _ | .dial _ => false
  | _ => true

/-- The nodes that an answer names, at the addresses that the cluster uses: the target of a redirect, or
the masters of a layout. A host that is left out stands for that of the node which answered. -/
def Exchange.advertised : Exchange → List Endpoint
  | ⟨.answer lease (.command _), answer⟩ | ⟨.answer lease .asking, answer⟩ =>
    Redirect.targets answer lease.endpoint
  | ⟨.answer lease .layout, .ok reply⟩ =>
    match Layout.ofReply lease.endpoint reply with
    -- A layout with one range that cannot be read names nobody.
    | .ok ranges => ranges.map (·.master)
    | .error _ => []
  | _ => []

namespace Trace

variable {translator : Translator} {bootstrap : List Endpoint} {given : PoolRef → Prop}
  {past now : Trace}

/-- The nodes that answers have named in the course of a trace. -/
def advertised (trace : Trace) : List Endpoint :=
  trace.flatMap Exchange.advertised

/-- A node that the client was built with, or one that an answer has named, at the address that the
client can reach. -/
def Rightful (translator : Translator) (bootstrap : List Endpoint) (past : Trace)
    (node : Endpoint) : Prop :=
  node ∈ bootstrap ∨ ∃ target ∈ past.advertised, node = translator.apply target

/-- If an attempt is redirected, answers have named the node that it is redirected to. -/
def Backs (past : Trace) (outcome : Except ClientError Signal) : Prop :=
  ∀ slot target, outcome = .ok (.moved slot target) ∨ outcome = .ok (.ask slot target) →
    target ∈ past.advertised

/-- A pool that was given to a task from the start, or handed out to it. -/
def Known (given : PoolRef → Prop) (past : Trace) (pool : PoolRef) : Prop :=
  given pool ∨ pool ∈ past.handed

/-- What was named once stays named. -/
theorem advertised_subset (before : past <+: now) : past.advertised ⊆ now.advertised := by
  obtain ⟨more, rfl⟩ := before
  unfold advertised
  rw [List.flatMap_append]
  exact List.subset_append_left _ _

/-- A node that is rightful once stays so. -/
theorem Rightful.mono {node : Endpoint} (rightful : past.Rightful translator bootstrap node)
    (before : past <+: now) : now.Rightful translator bootstrap node :=
  rightful.imp_right fun ⟨target, named, same⟩ => ⟨target, advertised_subset before named, same⟩

/-- A redirect that was backed once stays backed. -/
theorem Backs.mono {outcome : Except ClientError Signal} (backs : past.Backs outcome)
    (before : past <+: now) : now.Backs outcome :=
  fun slot target redirected => advertised_subset before (backs slot target redirected)

/-- A redirect is backed by the answer that it was read from. -/
theorem backs_of_answer {lease : Lease} {request : Request} {answer : Except ClientError Frame}
    (heard : Exchange.mk (.answer lease request) answer ∈ past)
    (kind : (∃ frame, request = .command frame) ∨ request = .asking) :
    past.Backs (Redirect.classify answer lease.endpoint) := by
  intro slot target redirected
  refine List.mem_flatMap.2 ⟨_, heard, ?_⟩
  -- Either kind of request may be answered by either kind of redirect.
  rcases kind with ⟨_, rfl⟩ | rfl <;> rcases redirected with redirected | redirected <;>
    simp [Exchange.advertised, Redirect.targets, redirected]

/-- What is known once stays known. -/
theorem Known.mono {pool : PoolRef} (known : past.Known given pool) (before : past <+: now) :
    now.Known given pool := by
  obtain ⟨more, rfl⟩ := before
  refine known.imp_right fun handed => ?_
  rw [handed_append]
  exact List.mem_append_left _ handed

/-- The pool that a step has just handed out is known. -/
theorem known_concat {exchange : Exchange} {pool : PoolRef} (handed : pool ∈ exchange.handed) :
    (past ++ [exchange]).Known given pool := by
  -- Of the two ways to know a pool, this is the one by what was handed out.
  right
  rw [handed_append]
  exact List.mem_append_right _ (by simpa [Trace.handed] using handed)

/-- The master that a layout gives to some range is a node that the answer with the layout names. -/
theorem rightful_of_layout {lease : Lease} {answer : Except ClientError Frame}
    {ranges : List SlotRange} {range : SlotRange}
    (heard : Exchange.mk (.answer lease .layout) answer ∈ past)
    (read : answer.bind (Discovery.layout translator lease.endpoint) = .ok ranges)
    (listed : range ∈ ranges) : past.Rightful translator bootstrap range.master := by
  rcases answer with error | reply
  · cases read
  · -- The layout that was read is the one that was reported, with its masters translated.
    rcases reported : Layout.ofReply lease.endpoint reply with error | entries
    · simp [Except.bind, Discovery.layout, reported, Except.map] at read
    · simp only [Except.bind, Discovery.layout, reported, Except.map, Except.ok.injEq] at read
      subst read
      obtain ⟨entry, member, rfl⟩ := List.mem_map.1 listed
      -- Some entry of the report stands behind the range, and the answer names its master.
      refine .inr ⟨entry.master, List.mem_flatMap.2 ⟨_, heard, ?_⟩, rfl⟩
      simp only [Exchange.advertised, reported]
      exact List.mem_map_of_mem member

end Trace

namespace Client

variable {translator : Translator} {bootstrap : List Endpoint} {given : PoolRef → Prop}
  {past : Trace} {pool : PoolRef}

/-- Only rightful nodes are registered, only known pools are asked for connections, and past all pools
only nodes that the client was built with are connected to. It is granted that a connection past all
pools leads to the node that was asked for. -/
def addressed (translator : Translator) (bootstrap : List Endpoint) (given : PoolRef → Prop) :
    Rules where
  allowed past op := (∀ node ∈ op.registers, past.Rightful translator bootstrap node) ∧
    (∀ pool ∈ op.pools, past.Known given pool) ∧ ∀ node, op = .dial node → node ∈ bootstrap
  granted _ exchange := ∀ node lease, exchange = ⟨.dial node, .ok lease⟩ → lease.endpoint = node

/-- A program that keeps to these addresses, however it ends. -/
abbrev Heedful {α : Type} (translator : Translator) (bootstrap : List Endpoint)
    (given : PoolRef → Prop) (program : Program α) (past : Trace) : Prop :=
  program.Conducts (addressed translator bootstrap given) (fun _ _ => True) past

/-- A free step is allowed at any time. -/
theorem allowed_of_free {op : Op} (free : op.isFree = true) :
    (addressed translator bootstrap given).allowed past op := by
  -- The operations that are not free are exactly those that one of the three conditions speaks of.
  cases op <;> simp_all [addressed, Op.isFree, Op.registers, Op.pools]

/-- A step of a known pool is allowed. -/
theorem allowed_of_known (known : past.Known given pool) {op : Op} (asks : op.pools = [pool]) :
    (addressed translator bootstrap given).allowed past op := by
  cases op <;> simp_all [addressed, Op.registers, Op.pools]

/-- A step that does no more than register rightful nodes is allowed. -/
theorem allowed_of_rightful {op : Op}
    (rightful : ∀ node ∈ op.registers, past.Rightful translator bootstrap node)
    (asks : op.pools = []) (inside : ∀ node, op ≠ .dial node) :
    (addressed translator bootstrap given).allowed past op :=
  ⟨rightful, by simp [asks], fun node same => absurd same (inside node)⟩

/-- Who checks a connection out of a known pool gets one of that pool. -/
theorem acquire_addressed (known : past.Known given pool) :
    (Program.acquire pool).Conducts (addressed translator bootstrap given)
      (fun _ acquired => ∀ lease, acquired = .ok lease → lease.endpoint = pool.endpoint) past := by
  -- What is known stays so one step later.
  have later : ∀ {past : Trace} (exchange : Exchange), past.Known given pool →
      (past ++ [exchange]).Known given pool :=
    fun exchange known => known.mono (List.prefix_append _ _)
  -- The pool stays known while the steps on the way to a connection are added to the past.
  refine ⟨allowed_of_known known rfl, fun entered _ => ?_⟩
  cases entered with
  | error error => simp [Program.Conducts]
  | ok ticket =>
    have known := later ⟨.enter pool, .ok ticket⟩ known
    refine ⟨allowed_of_known known rfl, fun permit _ => ?_⟩
    cases permit with
    | error error => simp [Program.Conducts]
    | ok granted =>
      have known := later ⟨.awaitPermit pool ticket, .ok granted⟩ known
      refine ⟨allowed_of_known known rfl, fun reused _ => ?_⟩
      cases reused with
      -- The idle connection is one of the pool.
      | true => simp [Program.Conducts, Lease.endpoint]
      | false =>
        have known := later ⟨.takeIdle pool ticket, false⟩ known
        refine ⟨allowed_of_known known rfl, fun connected _ => ?_⟩
        -- So is the new one, if it was opened.
        cases connected <;> simp [Program.Conducts, Lease.endpoint]

/-- Who sends a request has its answer behind it. -/
theorem request_addressed (lease : Lease) (request : Request) :
    (Program.request lease request).Conducts (addressed translator bootstrap given)
      (fun now answer => Exchange.mk (.answer lease request) answer ∈ now) past :=
  -- Neither to send nor to receive registers anybody or asks for a connection.
  ⟨allowed_of_free rfl, fun _ _ => ⟨allowed_of_free rfl, fun _ _ =>
    List.mem_append_right _ (List.mem_singleton_self _)⟩⟩

/-- Who gives a connection back needs no reason. -/
theorem release_addressed (lease : Lease) :
    Heedful translator bootstrap given (Program.release lease) past := by
  cases lease with
  | pooled pool ticket => exact ⟨allowed_of_free rfl, fun _ _ => trivial⟩
  | direct node number => trivial

/-- A known node is asked for the layout, and what it reports is translated before it is loaded. -/
theorem refreshFrom_addressed (known : past.Known given pool) :
    Heedful translator bootstrap given (Discovery.refreshFrom translator pool) past := by
  refine (acquire_addressed known).bind fun now acquired leased => ?_
  cases acquired with
  | error error => trivial
  | ok lease =>
    refine (request_addressed lease .layout).bind fun now reply heard => ?_
    refine (release_addressed lease).follow fun later _ before _ => ?_
    cases read : reply.bind (Discovery.layout translator pool.endpoint) with
    | error error => trivial
    | ok ranges =>
      refine ⟨allowed_of_rightful (fun node member => ?_) rfl (by simp), fun _ _ => trivial⟩
      -- A node to register is the master of some range that was read.
      obtain ⟨range, listed, rfl⟩ := List.mem_map.1 member
      -- The connection leads to the node of the pool, whose host stands for one that is left out.
      rw [← leased lease rfl] at read
      exact Trace.rightful_of_layout (before.subset heard) read listed

/-- Known nodes are asked in turn. -/
theorem firstRefreshed_addressed {pools : List PoolRef}
    (known : ∀ pool ∈ pools, past.Known given pool) :
    Heedful translator bootstrap given (Discovery.firstRefreshed translator pools) past := by
  -- Each node is asked after whatever the ones before it have answered, so the past is any.
  induction pools generalizing past with
  | nil => trivial
  | cons pool rest ih =>
    obtain ⟨first, others⟩ := List.forall_mem_cons.1 known
    refine (refreshFrom_addressed first).follow fun now refreshed before _ => ?_
    cases refreshed with
    | ok loaded => trivial
    | error error => exact ih fun other member => (others other member).mono before

/-- All other nodes that are asked were handed out a step ago. -/
theorem askOthers_addressed (asked : Option PoolRef) :
    Heedful translator bootstrap given (Discovery.askOthers translator asked) past :=
  ⟨allowed_of_free rfl, fun _ _ => firstRefreshed_addressed fun _ member =>
    Trace.known_concat (List.mem_filter.1 member).1⟩

/-- A rediscovery asks the preferred node, if it is known, and then the others. -/
theorem rediscover_addressed {preferred : Option PoolRef}
    (known : ∀ pool, preferred = some pool → past.Known given pool) :
    Heedful translator bootstrap given (Discovery.rediscover translator preferred) past := by
  refine ⟨allowed_of_free rfl, fun started _ => ?_⟩
  cases started with
  -- A pass that is refused asks nobody.
  | false => trivial
  | true =>
    have passed : Heedful translator bootstrap given (Discovery.pass translator preferred)
        (past ++ [⟨.beginRediscovery, true⟩]) := by
      cases preferred with
      | none => exact askOthers_addressed none
      | some pool =>
        -- The preferred node is still known once the pass has begun.
        have known := (known pool rfl).mono
          (List.prefix_append past [⟨.beginRediscovery, true⟩])
        refine (refreshFrom_addressed known).bind fun now refreshed _ => ?_
        -- The other nodes are asked only if this one has not helped.
        cases refreshed with
        | ok loaded => trivial
        | error error => exact askOthers_addressed (some pool)
    -- Ending the pass asks for nothing, and nothing else is left to do.
    refine passed.bind fun now found _ => ⟨allowed_of_free rfl, fun _ _ => ?_⟩
    cases found <;> trivial

/-- A known node is asked whether it is alive. -/
theorem ping_addressed (known : past.Known given pool) :
    Heedful translator bootstrap given (Dispatcher.ping pool) past := by
  refine (acquire_addressed known).bind fun now acquired _ => ?_
  cases acquired with
  | error error => trivial
  | ok lease =>
    exact (request_addressed lease .ping).bind fun _ _ _ =>
      (release_addressed lease).bind fun _ _ _ => trivial

/-- The first of some known nodes that is alive is known. -/
theorem firstAlive_addressed {pools : List PoolRef} (failure : Option ClientError)
    (known : ∀ pool ∈ pools, past.Known given pool) :
    (Dispatcher.firstAlive failure pools).Conducts (addressed translator bootstrap given)
      (fun now result => ∀ pool, result = .ok pool → now.Known given pool) past := by
  -- Each node is asked after the ones before it have failed, so the past and the failure are any.
  induction pools generalizing past failure with
  | nil => simp [Dispatcher.firstAlive, Program.Conducts]
  | cons pool rest ih =>
    obtain ⟨first, others⟩ := List.forall_mem_cons.1 known
    -- The pong does not matter for this, only that the pool may be asked.
    refine (ping_addressed first).follow fun now pong before _ => ?_
    cases pong with
    | ok answered =>
      rintro _ ⟨⟩
      exact first.mono before
    | error error => exact ih _ fun other member => (others other member).mono before

/-- A node that is alive is found among those that are handed out. -/
theorem fallback_addressed :
    Dispatcher.fallback.Conducts (addressed translator bootstrap given)
      (fun now result => ∀ pool, result = .ok pool → now.Known given pool) past := by
  -- A client that is closed hands out nobody.
  refine ⟨allowed_of_free rfl, fun closed _ => ?_⟩
  cases closed with
  | true => simp [Program.Conducts]
  | false =>
    exact ⟨allowed_of_free rfl, fun known _ => firstAlive_addressed none fun _ member =>
      Trace.known_concat member⟩

/-- The owner of a slot is handed out, or a node that is alive in its place. -/
theorem ownerPool_addressed (dispatcher : Dispatcher) (slot : Option Nat) :
    (dispatcher.ownerPool slot).Conducts (addressed dispatcher.translator bootstrap given)
      (fun now result => ∀ pool, result = .ok pool → now.Known given pool) past := by
  -- Whoever is told of an owner knows it from that step on.
  have owned : ∀ {past : Trace} {slot : Nat} {pool found : PoolRef},
      (.ok pool : Except ClientError PoolRef) = .ok found →
      (past ++ [Exchange.mk (.owner slot) (some pool)]).Known given found := by
    rintro past slot pool _ ⟨⟩
    exact Trace.known_concat (Option.mem_toList.2 rfl)
  cases slot with
  | none => exact fallback_addressed
  | some slot =>
    refine ⟨allowed_of_free rfl, fun owner _ => ?_⟩
    cases owner with
    | some pool => exact fun found same => owned same
    | none =>
      refine ⟨allowed_of_free rfl, fun count _ => ?_⟩
      simp only [Program.bind_done]
      split
      · exact fallback_addressed
      · -- With some node known, the layout is loaded before the slot is looked up again.
        refine (rediscover_addressed (by simp)).bind fun now _ _ =>
          ⟨allowed_of_free rfl, fun owner _ => ?_⟩
        cases owner with
        | some pool => exact fun found same => owned same
        | none => exact fallback_addressed

/-- The pool for an attempt is known, and a node that is asked out of turn was named for it. -/
theorem choose_addressed (dispatcher : Dispatcher) (slot : Option Nat) {route : Route}
    (rightful : ∀ target, route = .asking target →
      past.Rightful dispatcher.translator bootstrap target) :
    (dispatcher.choose slot route).Conducts (addressed dispatcher.translator bootstrap given)
      (fun now result => ∀ pool asking, result = .ok (pool, asking) → now.Known given pool)
      past := by
  cases route with
  -- The pool is that of the owner, and no target is involved.
  | owner =>
    refine (ownerPool_addressed dispatcher slot).bind fun now result known => ?_
    rcases result with error | found
    · simp [Program.Conducts, Except.map]
    · rintro pool asking ⟨⟩
      exact known found rfl
  | asking target =>
    refine ⟨allowed_of_free rfl, fun found _ => ?_⟩
    -- The target has a pool already, which the lookup has handed out.
    cases found with
    | some found =>
      rintro pool asking ⟨⟩
      exact Trace.known_concat (Option.mem_toList.2 rfl)
    | none =>
      -- The node is new, and its address was translated when it was named.
      have rightful := (rightful target rfl).mono
        (List.prefix_append past [⟨.lookup target, none⟩])
      refine ⟨allowed_of_rightful (List.forall_mem_singleton.2 rightful) rfl (by simp),
        fun made _ => ?_⟩
      rcases made with error | made
      · simp [Program.Conducts, Except.map]
      · rintro pool asking ⟨⟩
        exact Trace.known_concat (List.mem_singleton_self _)

/-- A redirect is read from the answer to the command, or from that to `ASKING` if it was refused. -/
theorem converse_addressed (lease : Lease) (frame : Frame) (asking : Bool) :
    (Dispatcher.converse lease frame asking).Conducts (addressed translator bootstrap given)
      Trace.Backs past := by
  have plain : ∀ past : Trace, (Program.bind (Program.request lease (.command frame)) fun reply =>
      .done (Redirect.classify reply lease.endpoint)).Conducts
      (addressed translator bootstrap given) Trace.Backs past := fun past =>
    (request_addressed lease _).bind fun now answer heard => Trace.backs_of_answer heard (.inl ⟨frame, rfl⟩)
  -- Without `ASKING` only the command itself is answered.
  cases asking with
  | false => exact plain past
  | true =>
    refine (request_addressed lease .asking).bind fun now acknowledged heard => ?_
    split
    · exact plain now
    · exact Trace.backs_of_answer heard (.inr rfl)

/-- A redirect that an attempt comes to is one that an answer has called for. -/
theorem attempt_addressed (known : past.Known given pool) (frame : Frame) (asking : Bool) :
    (Dispatcher.attempt pool frame asking).Conducts (addressed translator bootstrap given)
      Trace.Backs past := by
  refine (acquire_addressed known).bind fun now acquired _ => ?_
  cases acquired with
  | error error =>
    -- Without a connection nobody can redirect.
    intro slot target redirected
    split at redirected <;> simp at redirected
  | ok lease =>
    refine (converse_addressed lease frame asking).bind fun later outcome backs => ?_
    -- To give the connection back leaves the answers that were heard.
    exact (release_addressed lease).follow fun last _ before _ => backs.mono before

/-- The attempts of a command give slots only to nodes that it was redirected to, and ask nodes out of
turn only when they were told to. -/
theorem run_addressed (dispatcher : Dispatcher) (slot : Option Nat) (frame : Frame) (remaining : Nat)
    {progress : Progress}
    (rightful : ∀ target, progress.route = .asking target →
      past.Rightful dispatcher.translator bootstrap target)
    (responsive : ∀ pool, progress.lastResponsive = some pool → past.Known given pool) :
    Heedful dispatcher.translator bootstrap given (dispatcher.run slot frame remaining progress)
      past := by
  -- Where the next attempt goes was named, and the node that answered last is known.
  induction remaining generalizing past progress with
  | zero => trivial
  | succ remaining ih =>
    refine ⟨allowed_of_free rfl, fun closed _ => ?_⟩
    have asked := List.prefix_append past [⟨.isClosed, closed⟩]
    cases closed with
    | true => trivial
    | false =>
      refine (choose_addressed dispatcher slot fun target same =>
        (rightful target same).mono asked).follow fun now chosen chose known => ?_
      rcases chosen with error | ⟨pool, asking⟩
      -- No node was chosen, so nothing was registered or asked.
      · trivial
      · have known := known pool asking rfl
        refine (attempt_addressed known frame asking).follow fun later outcome tried backs => ?_
        have known := known.mono tried
        -- Wherever the attempt was redirected to, the translated target is rightful from now on.
        have word : ∀ {slot target}, outcome = .ok (.moved slot target) ∨
            outcome = .ok (.ask slot target) →
            Trace.Rightful dispatcher.translator bootstrap later
              (dispatcher.translator.apply target) :=
          fun redirected => .inr ⟨_, backs _ _ redirected, rfl⟩
        rcases outcome with error | (reply | ⟨moved, target⟩ | ⟨asked, target⟩ | error)
        -- Neither an error nor a reply gives a slot to anybody.
        · trivial
        · trivial
        · -- The target is translated before the slot is given to it.
          refine ⟨allowed_of_rightful (List.forall_mem_singleton.2 (word (.inl rfl))) rfl (by simp),
            fun assigned _ => ?_⟩
          cases assigned with
          | error error => trivial
          | ok owner =>
            -- The owner's turn comes next, and the node that redirected has answered last.
            refine ih (by simp) ?_
            rintro _ ⟨⟩
            exact known.mono (List.prefix_append _ _)
        · -- The next attempt asks the translated target.
          refine ih ?_ ?_
          · rintro _ ⟨⟩
            exact word (.inr rfl)
          · rintro _ ⟨⟩
            exact known
        · -- After a failure the layout is loaded from the node that answered last.
          have responsive : ∀ pool, progress.lastResponsive = some pool →
              Trace.Known given later pool := fun pool same =>
            (responsive pool same).mono ((asked.trans chose).trans tried)
          refine (rediscover_addressed responsive).follow fun last _ before _ => ?_
          exact ih (by simp) fun pool same => (responsive pool same).mono before

/-- A command keeps to the addresses, wherever it is sent. -/
theorem dispatch_addressed (dispatcher : Dispatcher) (command : Command) :
    Heedful dispatcher.translator bootstrap given (dispatcher.execute command) past := by
  -- A command across slots comes to nothing before it does anything.
  unfold Dispatcher.execute
  split
  · trivial
  · exact run_addressed dispatcher _ _ _ (by simp) (by simp)

/-- A bootstrap node is asked for the layout, and what it reports is translated. -/
theorem queryBootstrap_addressed {node : Endpoint} (member : node ∈ bootstrap) :
    (Discovery.queryBootstrap translator node).Conducts (addressed translator bootstrap given)
      (fun now result => ∀ ranges, result = .ok ranges →
        ∀ range ∈ ranges, now.Rightful translator bootstrap range.master) past := by
  -- To dial is not to register, nor to ask a pool, and the node is one of the bootstrap list.
  refine ⟨⟨by simp [Op.registers], by simp [Op.pools], ?_⟩, fun dialled granted => ?_⟩
  · rintro _ ⟨⟩
    exact member
  · rcases dialled with error | lease
    · simp [Program.Conducts]
    · refine (request_addressed lease .layout).bind fun now reply heard => ?_
      refine (release_addressed lease).follow fun later _ before _ ranges read range listed => ?_
      -- It is granted that the connection leads to the node that was dialled.
      rw [← granted node lease rfl] at read
      exact Trace.rightful_of_layout (before.subset heard) read listed

/-- The layout that a bootstrap node reports is loaded with its masters translated. -/
theorem loadFrom_addressed {node : Endpoint} (member : node ∈ bootstrap) :
    Heedful translator bootstrap given (Discovery.loadFrom translator node) past := by
  refine (queryBootstrap_addressed member).bind fun now result rightful => ?_
  -- The table is started over first, which concerns no node.
  rcases result with error | ranges
  · trivial
  · refine ⟨allowed_of_free rfl, fun _ _ =>
      ⟨allowed_of_rightful (fun node member => ?_) rfl (by simp), fun _ _ => trivial⟩⟩
    obtain ⟨range, listed, rfl⟩ := List.mem_map.1 member
    exact (rightful ranges rfl range listed).mono (List.prefix_append _ _)

/-- Bootstrap nodes are asked in turn. -/
theorem loadFirst_addressed {nodes : List Endpoint} (members : ∀ node ∈ nodes, node ∈ bootstrap) :
    Heedful translator bootstrap given (Discovery.loadFirst translator nodes) past := by
  -- Each node is asked after the ones before it have failed, so the past is any.
  induction nodes generalizing past with
  | nil => trivial
  | cons node rest ih =>
    obtain ⟨member, others⟩ := List.forall_mem_cons.1 members
    refine (loadFrom_addressed member).bind fun now result _ => ?_
    cases result with
    | ok done => trivial
    | error error => exact ih others

/-- Bootstrap nodes are rightful as they are. -/
theorem registerAll_addressed {nodes : List Endpoint} (members : ∀ node ∈ nodes, node ∈ bootstrap) :
    Heedful translator bootstrap given (Discovery.registerAll nodes) past := by
  induction nodes generalizing past with
  | nil => trivial
  | cons node rest ih =>
    obtain ⟨member, others⟩ := List.forall_mem_cons.1 members
    refine ⟨allowed_of_free rfl, fun found _ => ?_⟩
    -- A node that has a pool already is passed over, and any other one is registered as it was
    -- given.
    cases found with
    | some pool => exact ih others
    | none =>
      exact ⟨allowed_of_rightful (List.forall_mem_singleton.2 (.inl member)) rfl (by simp),
        fun _ _ => ih others⟩

/-- The first layout is loaded from a node that the client was built with, and if there is none those
nodes are registered as they are. -/
theorem start_addressed (translator : Translator) (bootstrap : List Endpoint) :
    Heedful translator bootstrap given (Discovery.start translator bootstrap) past := by
  refine (loadFirst_addressed fun _ member => member).bind fun now found _ => ?_
  cases found with
  -- Only if no node could tell a layout are all of them registered.
  | true => trivial
  | false => exact (registerAll_addressed fun _ member => member).bind fun _ _ _ => trivial

end Client

end RedisCluster
