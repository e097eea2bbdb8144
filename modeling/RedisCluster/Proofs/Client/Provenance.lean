import RedisCluster.Proofs.Client.Addresses

/-! Where the nodes of a client come from, whatever it does: there is a pool only for a node that the
client was built with or that some reply has named, and never for the name as it stood in the reply. -/

namespace RedisCluster

/-- What a client does from the beginning: it loads its first layout, and does what it is asked to. -/
inductive Chore where
  | start
  | serve (job : Job)

namespace Chore

/-- The program of a chore. -/
def program (client : Client) (bootstrap : List Endpoint) : Chore → Program (Bool ⊕ Outcome)
  | start => do return .inl (← Discovery.start client.dispatcher.translator bootstrap)
  | serve job => do return .inr (← job.program client)

/-- The pools that a chore is given to begin with. -/
def given : Chore → List PoolRef
  | serve (.rediscover preferred) => preferred.toList
  | start | serve (.execute _) | serve (.dispatch _) | serve .refresh | serve .close => []

/-- Every chore registers only rightful nodes, and asks only for connections of known pools. -/
theorem program_addressed (client : Client) (bootstrap : List Endpoint) {given : PoolRef → Prop}
    (chore : Chore) (made : ∀ pool ∈ chore.given, given pool) :
    Client.Heedful client.dispatcher.translator bootstrap given (chore.program client bootstrap) [] := by
  cases chore with
  -- The first layout is loaded from the nodes that the client was built with.
  | start => exact (Client.start_addressed _ bootstrap).bind fun _ _ _ => trivial
  | serve job =>
    have served : Client.Heedful client.dispatcher.translator bootstrap given (job.program client) [] := by
      -- To ask for the flag and to close the client register nobody.
      refine Job.conducts_of_parts client (fun _ => Client.allowed_of_free rfl)
        (fun _ => Client.allowed_of_free rfl)
        (fun command _ past => Client.dispatch_addressed client.dispatcher command)
        (fun preferred asked past => Client.rediscover_addressed fun pool same => .inl ?_) []
      -- A rediscovery that prefers a node was given it.
      rcases asked with rfl | rfl
      · exact made pool (Option.mem_toList.2 same)
      -- A reload is given no node to prefer.
      · cases same
    exact served.bind fun _ _ _ => trivial

end Chore

namespace Client

variable {translator : Translator} {bootstrap : List Endpoint} {given : PoolRef → Prop}

/-- A connection past all pools leads to the node that was asked for. -/
theorem granted_perform (past : Trace) (state : ClientState) (op : Op) (choice : op.Choice) :
    (addressed translator bootstrap given).granted past ⟨op, (state.perform op choice).1⟩ := by
  -- Only `dial` answers with a direct connection.
  intro node lease same
  obtain ⟨rfl, answered⟩ := Exchange.mk.inj same
  have dialled : (state.perform (.dial node) choice).1 = .ok lease := eq_of_heq answered
  -- The choice of the surroundings decides whether it is opened, and not where it leads.
  cases choice with
  | error error => cases dialled
  | ok done =>
    obtain rfl := Except.ok.inj dialled
    rfl

variable {α : Type}

/-- Every pool is for a rightful node, going by what some task has heard. -/
def Sourced (translator : Translator) (bootstrap : List Endpoint) (topology : Topology)
    (past : Nat → Trace) : Prop :=
  ∀ id pool, topology.pool? id = some pool →
    ∃ index, (past index).Rightful translator bootstrap pool.endpoint

/-- Every task registers only rightful nodes, and asks only for connections of known pools. -/
abbrev Addressing (translator : Translator) (bootstrap : List Endpoint) (given : PoolRef → Prop)
    (system : System α) (past : Nat → Trace) : Prop :=
  system.Each (fun past task => task.Abides (addressed translator bootstrap given)
    (fun _ _ => True) past) past

/-- A move makes pools for rightful nodes only. -/
theorem Sourced.move {system : System α} {past : Nat → Trace}
    (sourced : Sourced translator bootstrap system.state.topology past)
    (each : Addressing translator bootstrap given system past) (next : Move α) :
    Sourced translator bootstrap (system.move next).state.topology (system.pastAfter past next) := by
  -- An old pool is as rightful as it was, so only the nodes that are named now have to be looked at.
  have later : ∀ {named : List Endpoint} {after : Topology} {now : Nat → Trace},
      Topology.Descends named system.state.topology after → (∀ index, past index <+: now index) →
      (∀ node ∈ named, ∃ index, (now index).Rightful translator bootstrap node) →
      Sourced translator bootstrap after now := by
    intro named after now descends before rightful id pool found
    rcases descends.sources id pool found with ⟨old, there, same⟩ | fresh
    -- What made the old pool rightful is still in somebody's past.
    · obtain ⟨index, known⟩ := sourced id old there
      exact ⟨index, same ▸ known.mono (before index)⟩
    · exact rightful _ fresh
  rcases system.move_cases next with
    ⟨_, -, pasts, moved⟩ | ⟨turn, before, deed, after, last, found, taken, pasts, moved⟩ |
    ⟨pasts, moved⟩ <;> rw [pasts, moved]
  -- Starting a task makes no pool.
  · exact sourced
  -- The past of the one that took its turn grows, and all others stay as they are.
  · have grows : ∀ index, past index <+: System.extend past turn deed index := by
      intro index
      unfold System.extend
      split
      · exact List.prefix_append _ _
      · exact List.prefix_refl _
    have abides := each.holds turn before found
    cases taken with
    | took choice =>
      -- The nodes that the step registers are rightful by what the task has heard before.
      exact later (system.state.descends_perform _ choice) grows fun node member =>
        ⟨turn, (abides.1.1 node member).mono (grows turn)⟩
    | ended =>
      rw [System.extend_none]
      exact sourced
    -- Giving up registers nobody.
    | gaveUp => exact later (ClientState.descends_giveBack _ system.state) grows (by simp)
  -- A move of nobody changes nothing.
  · exact sourced

variable {client : Client} {config : PoolConfig} {moves : List (Move (Bool ⊕ Outcome))}

/-- Whatever chores a client has, each keeps to the rules, and pools are made for rightful nodes only. -/
theorem sourced_run (config : PoolConfig)
    (chores : ∀ program, .start program ∈ moves → ∃ chore : Chore,
      program = chore.program client bootstrap ∧ ∀ pool ∈ chore.given, given pool) :
    let system : System (Bool ⊕ Outcome) := { state := .initial config }
    let past : Nat → Trace := fun index => system.past index moves
    Addressing client.dispatcher.translator bootstrap given (system.run moves) past ∧
      Sourced client.dispatcher.translator bootstrap (system.run moves).state.topology past := by
  intro system past
  -- The two go together: what is registered next is rightful because the tasks keep to the rules.
  refine System.run_past_induction (fun system past =>
    Addressing client.dispatcher.translator bootstrap given system past ∧
      Sourced client.dispatcher.translator bootstrap system.state.topology past) system
    (fun _ => []) ⟨.of_vacant _, fun id pool found => ?_⟩
    fun system past next member ⟨each, sourced⟩ => ?_
  · -- A new client has no pools.
    cases found
  · have moved := @System.Each.move _ _ _ _ (fun _ => True) each trivial next
      (fun program same => by
        obtain ⟨chore, rfl, made⟩ := chores program (same ▸ member)
        exact chore.program_addressed client bootstrap made)
      fun turn _ abides =>
        ⟨turn.abides (fun op choice _ => granted_perform _ _ op choice) abides, trivial⟩
    exact ⟨moved.1, sourced.move each next⟩

/-- What an answer advertises is named by the reply that came. -/
theorem names_of_advertised {trace : Trace} {target : Endpoint}
    (advertised : target ∈ trace.advertised) :
    ∃ lease request reply, Exchange.mk (.answer lease request) (.ok reply) ∈ trace ∧
      reply.Names lease.endpoint target := by
  -- A target is advertised by a redirect or by a layout.
  obtain ⟨exchange, heard, member⟩ := List.mem_flatMap.1 advertised
  unfold Exchange.advertised at member
  split at member
  -- A redirect for good and one for a single command are read the same way.
  · obtain ⟨reply, rfl, names⟩ := Redirect.names_of_targets member
    exact ⟨_, _, reply, heard, names⟩
  · obtain ⟨reply, rfl, names⟩ := Redirect.names_of_targets member
    exact ⟨_, _, reply, heard, names⟩
  -- The masters of a layout are the targets of its ranges.
  · rename_i lease reply
    split at member
    · rename_i ranges read
      obtain ⟨range, listed, rfl⟩ := List.mem_map.1 member
      exact ⟨_, _, reply, heard, Layout.names_of_ofReply read listed⟩
    · cases member
  -- Other answers advertise nothing.
  · cases member

/-- A client does any chores at the same time, in any order of their steps, where a chore that is given a
pool is given one that is made at some time. Every pool that is ever made, registered or given a slot is for
a rightful node: one that the client was built with, or the translation of one that an answer has
named. A task registers a node only once it is rightful by what the task itself has heard. Pooled
connections are asked for at rightful nodes only, and connections past all pools only at nodes that the
client was built with. What an answer is taken to name, the reply names. -/
theorem addresses_are_translated
    (chores : ∀ program, .start program ∈ moves → ∃ chore : Chore,
      program = chore.program client bootstrap ∧ ∀ pool ∈ chore.given,
        (({ state := .initial config } : System _).run moves).state.topology.Made pool) :
    let translator := client.dispatcher.translator
    let system : System (Bool ⊕ Outcome) := { state := .initial config }
    let rightful (node : Endpoint) : Prop :=
      ∃ index, (system.past index moves).Rightful translator bootstrap node
    let later := (system.run moves).state.topology
    (∀ id pool, later.pool? id = some pool → rightful pool.endpoint) ∧
    (∀ pool ∈ later.knownPools, rightful pool.endpoint) ∧
    (∀ slot pool, later.owner slot = some pool → rightful pool.endpoint) ∧
    (∀ index surroundings exchange, (system.run moves).turn? index surroundings = some exchange →
      (∀ node ∈ exchange.op.registers,
        (system.past index moves).Rightful translator bootstrap node) ∧
      (∀ pool ∈ exchange.op.pools, rightful pool.endpoint) ∧
      ∀ node, exchange.op = .dial node → node ∈ bootstrap) ∧
    ∀ index, ∀ target ∈ (system.past index moves).advertised, ∃ lease request reply,
      Exchange.mk (.answer lease request) (.ok reply) ∈ system.past index moves ∧
        reply.Names lease.endpoint target := by
  intro translator system rightful later
  obtain ⟨each, sourced⟩ := sourced_run config chores
  have grounded : (ClientState.initial config).topology.Grounded :=
    .of_consistent (Topology.consistent_new config)
  have rooted := System.rooted_run grounded moves
  -- It is enough to know of a pool that it was made.
  have made : ∀ pool, later.Made pool → rightful pool.endpoint := by
    -- The pool that was made is found in the table, with the endpoint that it was made for.
    rintro pool ⟨found, present, same⟩
    exact same ▸ sourced _ found present
  refine ⟨sourced, fun pool known => ?_,
    fun slot pool owns => made pool (rooted.grounded.owners slot pool owns),
    fun index surroundings exchange turn => ?_, fun index target => names_of_advertised⟩
  -- Known pools are those of the registered nodes.
  · obtain ⟨entry, present, rfl⟩ := List.mem_map.1 known
    exact made _ (rooted.grounded.nodes entry present)
  · obtain ⟨op, next, holdings, running, rfl, -⟩ := System.turn_cases turn
    obtain ⟨⟨registers, pools, dials⟩, -⟩ := each.holds index _ running
    -- Whoever asks for a connection was given the pool or has been handed it.
    refine ⟨registers, fun pool member => made pool ?_, dials⟩
    rcases pools pool member with given | handed
    · exact given
    · exact rooted.handed index pool handed

/-- The only node of a cluster leaves out its own host, and has a pool at a translated address, which a
reload is told to ask. -/
theorem addresses_are_translated_behind_gateway :
    let client : Client := ⟨Dispatcher.new (.custom fun node => ⟨"gateway", node.port + 1000⟩) 5⟩
    let bootstrap : List Endpoint := [⟨"seed", 7000⟩]
    let surroundings : (op : Op) → op.Choice := Op.surroundings (fun _ => .ok ()) fun _ _ =>
      .ok (Layout.toReply [(0, 0, ⟨"", 7001⟩)])
    let reload : Chore := .serve (.rediscover (some ⟨0, ⟨"gateway", 8001⟩⟩))
    let moves : List (Move (Bool ⊕ Outcome)) := [.start (Chore.start.program client bootstrap),
      .step 0 surroundings, .step 0 surroundings, .step 0 surroundings, .step 0 surroundings,
      .step 0 surroundings, .start (reload.program client bootstrap), .step 1 surroundings]
    ∃ pool, (({ state := .initial {} } : System _).run moves).state.topology.pool? 0 = some pool ∧
      ∃ index, ∃ target ∈ (({ state := .initial {} } : System _).past index moves).advertised,
        pool.endpoint = client.dispatcher.translator.apply target := by
  intro client bootstrap surroundings reload moves
  -- The reload of the translated layout has registered the gateway.
  have registered : ((({ state := .initial {} } : System _).run moves).state.topology.pool? 0).map
      Pool.endpoint = some ⟨"gateway", 8001⟩ := by decide +kernel
  obtain ⟨pool, found, same⟩ := Option.map_eq_some_iff.1 registered
  have chores : ∀ program, .start program ∈ moves → ∃ chore : Chore,
      program = chore.program client bootstrap ∧ ∀ pool ∈ chore.given,
        (({ state := .initial {} } : System _).run moves).state.topology.Made pool := by
    intro program member
    -- The two programs that are started are the first load and the reload.
    simp only [moves, List.mem_cons, Move.start.injEq, reduceCtorEq, List.not_mem_nil, or_false,
      false_or] at member
    rcases member with rfl | rfl
    · exact ⟨.start, rfl, by simp [Chore.given]⟩
    · refine ⟨reload, rfl, fun other asked => ?_⟩
      obtain rfl := List.mem_singleton.1 asked
      exact ⟨pool, found, same⟩
  obtain ⟨sourced, -⟩ := addresses_are_translated chores
  obtain ⟨index, rightful⟩ := sourced 0 pool found
  -- The pool is not for the seed, so a reply must have named it.
  refine ⟨pool, found, index, rightful.resolve_left ?_⟩
  rw [same]
  decide

end Client

end RedisCluster
