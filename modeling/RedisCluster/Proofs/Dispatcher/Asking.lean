import RedisCluster.Proofs.Dispatcher.Itinerary
import RedisCluster.Proofs.Dispatcher.RedirectChain
import RedisCluster.Proofs.Program.Midway

/-! Temporary redirects: an `ASK` leads the next attempt, and that attempt alone, to the node that it
names, where `ASKING` comes first. -/

namespace RedisCluster

namespace Topology

/-- Every known node is known under its own key. -/
def Keyed (topology : Topology) : Prop :=
  ∀ entry ∈ topology.nodes, entry.1 = entry.2.endpoint.nodeKey

namespace Keyed

variable {topology : Topology}

/-- The pool that is found for a node is a pool of that node. -/
theorem sameNode_of_lookup (keyed : topology.Keyed) {node : Endpoint} {pool : PoolRef}
    (found : topology.lookup node = some pool) : pool.endpoint.sameNode node = true := by
  have key := keyed _ (mem_of_node? found)
  exact Endpoint.sameNode_iff.2 key.symm

/-- A node is registered under its own key. -/
theorem register (keyed : topology.Keyed) (node : Endpoint) :
    (topology.register node).2.Keyed := by
  -- Refused and known nodes leave the table alone; a new one is added under its own key.
  rcases register_cases topology node with ⟨_, same⟩ | ⟨_, _, _, same⟩ | ⟨_, _, grown⟩
  · rwa [same]
  · rwa [same]
  · rw [grown]
    intro entry member
    rcases List.mem_append.1 member with old | new
    · exact keyed entry old
    · rw [List.mem_singleton.1 new]

/-- The pool that registering a node hands out is a pool of that node. -/
theorem sameNode_of_register (keyed : topology.Keyed) {node : Endpoint} {pool : PoolRef}
    (registered : (topology.register node).1 = .ok pool) : pool.endpoint.sameNode node = true := by
  -- A closed table hands out nothing, a known node its old pool, and a new one the pool just made.
  rcases register_cases topology node with ⟨_, same⟩ | ⟨_, known, found, same⟩ | ⟨_, _, made⟩
  · simp [same] at registered
  · rw [same, Except.ok.injEq] at registered
    exact keyed.sameNode_of_lookup (registered ▸ found)
  · rw [made, Except.ok.injEq] at registered
    rw [← registered]
    exact Endpoint.sameNode_iff.2 rfl

/-- Slots may change hands without any node being renamed. -/
theorem assign (keyed : topology.Keyed) (slots : List Nat) (node : Endpoint) :
    (topology.assign slots node).2.Keyed := by
  -- The table is refused, or the node is registered and the slots are given to it.
  rcases assign_cases topology slots node with ⟨_, same⟩ | ⟨pool, grown, registered, same⟩
  · rwa [same]
  -- Only the registering touches the nodes.
  · have after := keyed.register node
    rw [registered] at after
    rw [same]
    exact after

/-- No step of any program makes a node known under a foreign key. -/
theorem perform (state : ClientState) (op : Op) (choice : op.Choice)
    (keyed : state.topology.Keyed) : (state.perform op choice).2.topology.Keyed := by
  -- A step inside one pool does not touch the table, whether the pool exists or not.
  have inside : ∀ {α : Type} (pool : PoolRef) (missing : α) (step : Pool → α × Pool),
      (state.onPool pool missing step).2.topology.Keyed := by
    intro α pool missing step
    unfold ClientState.onPool
    split <;> exact keyed
  -- An empty table has no entry to be under a wrong key.
  have emptied : state.topology.reset.Keyed := fun _ member => nomatch member
  -- Registering, assigning and rebuilding add nodes; what else there is adds none.
  cases op with
  | register node => exact keyed.register node
  | assign slots node => exact keyed.assign slots node
  | rebuild ranges =>
    exact rebuild_induction (motive := Keyed) ranges keyed keyed fun _ slots node keyed =>
      Keyed.assign keyed slots node
  | reset => exact emptied
  | close =>
    show (state.topology.close).2.Keyed
    unfold Topology.close
    split
    · exact keyed
    · exact emptied
  | enter pool => exact inside _ _ _
  | awaitPermit pool ticket => exact inside _ _ _
  | takeIdle pool ticket => exact inside _ _ _
  | dial node => cases choice <;> exact keyed
  | send lease request => cases lease <;> exact keyed
  | answer lease request => cases lease <;> exact keyed
  | _ => exact keyed

/-- Others make no node known under a foreign key, whatever they do. -/
theorem later {state after : ClientState} (keyed : state.topology.Keyed)
    (others : ClientState.Later state after) : after.topology.Keyed :=
  others.keeps perform keyed

/-- No run of a program makes a node known under a foreign key, whatever others do. -/
theorem run {α : Type} {program : Program α} {state last : ClientState} {trace : Trace} {value : α}
    (keyed : state.topology.Keyed)
    (run : program.Amid ClientState.Later state trace value last) : last.topology.Keyed :=
  run.keeps perform keyed

end Keyed

end Topology

/-- The connection over which a step sent `ASKING`. -/
def Exchange.asking? : Exchange → Option Lease
  | ⟨.send lease .asking, _⟩ => some lease
  | _ => none

/-- The connection that a step hands out. -/
def Exchange.lease? : Exchange → Option Lease
  | ⟨.takeIdle pool ticket, true⟩ => some (.pooled pool ticket)
  | ⟨.connect pool ticket, .ok ()⟩ => some (.pooled pool ticket)
  | ⟨.dial _, .ok lease⟩ => some lease
  | _ => none

namespace Trace

/-- The connections over which `ASKING` was sent, in order. -/
def askings (trace : Trace) : List Lease :=
  trace.filterMap Exchange.asking?

/-- The connections that were handed out, in order. -/
def leases (trace : Trace) : List Lease :=
  trace.filterMap Exchange.lease?

/-- `ASKING` is neither sent nor answered. -/
def Unasked (trace : Trace) : Prop :=
  ∀ exchange ∈ trace, exchange.op.asks = false

/-- A node that answered at the end of a trace did so at the end of a longer one. -/
theorem FoundAlive.prepend {front back : Trace} {pool : PoolRef} (alive : back.FoundAlive pool) :
    (front ++ back).FoundAlive pool := by
  obtain ⟨lease, there, heard⟩ := alive
  refine ⟨lease, there, ?_⟩
  -- What was heard last stays so, whatever was heard before.
  unfold Trace.heard at heard ⊢
  -- Something was heard in the later part, so it is what was heard last in both.
  rw [List.filterMap_append, List.getLast?_append, heard, Option.some_or]

end Trace

namespace Program

variable {others : ClientState → ClientState → Prop} {state last : ClientState} {steps : Trace}

/-- Where nothing is asked of a node, nothing is sent. -/
theorem Amid.requests_of_idle {α : Type} {program : Program α} {value : α}
    (run : Amid others program state steps value last)
    (idle : program.Within fun op => op.isTraffic = false) : steps.requests = [] := by
  -- A step that is no traffic sends nothing, whatever else it is.
  refine List.filterMap_eq_nil_iff.2 fun exchange member => ?_
  have silent := run.within idle exchange member
  rcases exchange with ⟨op, answer⟩
  cases op <;> first | rfl | simp [Op.isTraffic] at silent

/-- Who checks a connection out is handed one, and who does not is handed none. -/
theorem leases_of_acquire {pool : PoolRef} {acquired : Except ClientError Lease}
    (run : Amid others (acquire pool) state steps acquired last) :
    steps.leases = acquired.toOption.toList := by
  -- A connection is handed out by the last of at most four steps.
  obtain ⟨before, _, rest, _, rfl, entering⟩ := amid_ask_iff.1 run
  -- The pool may refuse the caller at once.
  cases entered : (before.perform (.enter pool) ()).1 with
  | error refusal =>
    rw [entered] at entering
    obtain ⟨rfl, rfl, _⟩ := amid_done_iff.1 entering
    rfl
  | ok ticket =>
    rw [entered] at entering
    obtain ⟨before, _, rest, _, rfl, waiting⟩ := amid_ask_iff.1 entering
    -- A caller who waited may be sent away again, and is handed nothing.
    cases permitted : (before.perform (.awaitPermit pool ticket) ()).1 with
    | error denial =>
      rw [permitted] at waiting
      obtain ⟨rfl, rfl, _⟩ := amid_done_iff.1 waiting
      rfl
    | ok granted =>
      rw [permitted] at waiting
      obtain ⟨before, _, rest, _, rfl, taking⟩ := amid_ask_iff.1 waiting
      -- An idle connection is handed out as it is; otherwise one is opened, or opening fails.
      cases reused : (before.perform (.takeIdle pool ticket) ()).1 with
      | true =>
        rw [reused] at taking
        obtain ⟨rfl, rfl, _⟩ := amid_done_iff.1 taking
        rfl
      | false =>
        rw [reused] at taking
        obtain ⟨before, outcome, rest, _, rfl, opening⟩ := amid_ask_iff.1 taking
        cases outcome with
        | error failure =>
          obtain ⟨rfl, rfl, _⟩ := amid_done_iff.1 opening
          rfl
        | ok opened =>
          obtain ⟨rfl, rfl, _⟩ := amid_done_iff.1 opening
          rfl

/-- Who gives a connection back is handed none. -/
theorem leases_of_release {lease : Lease}
    (run : Amid others (release lease) state steps () last) : steps.leases = [] := by
  cases lease with
  -- A pooled connection goes back in one step, and a direct one is simply dropped.
  | pooled pool ticket =>
    obtain ⟨before, _, rest, _, rfl, released⟩ := amid_ask_iff.1 run
    obtain ⟨rfl, _⟩ := amid_done_iff.1 released
    rfl
  | direct node number =>
    obtain ⟨rfl, _⟩ := amid_done_iff.1 run
    rfl

end Program

namespace Dispatcher

/-- A conversation that begins with `ASKING`, and what it comes to: the command is the next request,
and is sent only if the answer to `ASKING` is no error. -/
inductive AsksFirst (lease : Lease) (frame : Frame) : Trace → Except ClientError Signal → Prop where
  -- An error in answer to it ends the conversation: the command is not sent.
  | refused {answer : Except ClientError Frame}
      (refused : ∀ reply, Redirect.classify answer lease.endpoint ≠ .ok (.reply reply)) :
      AsksFirst lease frame [⟨.send lease .asking, ()⟩, ⟨.answer lease .asking, answer⟩]
        (Redirect.classify answer lease.endpoint)
  -- Any other reply clears the way for the command, whose answer alone decides.
  | acknowledged {reply : Frame} (normal : reply.asError = none)
      (answer : Except ClientError Frame) :
      AsksFirst lease frame
        [⟨.send lease .asking, ()⟩, ⟨.answer lease .asking, .ok reply⟩,
          ⟨.send lease (.command frame), ()⟩, ⟨.answer lease (.command frame), answer⟩]
        (Redirect.classify answer lease.endpoint)

/-- The slot table told the owner of the slot, or there was none to tell and a node answered that it
is alive. -/
inductive Routed (slot : Option Nat) (aiming : Trace) (pool : PoolRef) : Prop where
  -- The last step of the way asked the table, and the table named this pool.
  | owned {own : Nat} (keyed : slot = some own)
      (told : aiming.getLast? = some ⟨.owner own, some pool⟩)
  -- The table had no owner to name, and this pool is one that has answered a ping.
  | fallen (unowned : ∀ own, slot = some own → ⟨.owner own, none⟩ ∈ aiming)
      (alive : aiming.FoundAlive pool)

/-- The pool of a node was looked up, and registered if it was missing. -/
inductive Targeted (target : Endpoint) : Trace → PoolRef → Prop where
  -- The node was known already.
  | known (pool : PoolRef) :
      Targeted target [⟨.isClosed, false⟩, ⟨.lookup target, some pool⟩] pool
  -- The node was not known, so it was registered under way.
  | registered (pool : PoolRef) :
      Targeted target [⟨.isClosed, false⟩, ⟨.lookup target, none⟩, ⟨.register target, .ok pool⟩] pool

/-- An attempt that has no connection comes to nothing; one that has is a conversation over it that
begins with `ASKING`. -/
inductive AsksOnce (frame : Frame) (attempt : Attempt) : Prop where
  -- Nothing at all was sent, and no reply is the outcome.
  | unconnected (unleased : attempt.steps.leases = []) (unsent : attempt.steps.requests = [])
      (unanswered : ∀ reply, attempt.outcome ≠ .ok (.reply reply))
  -- One connection was handed out, to the node of the pool, and all that was sent went over it.
  | connected {lease : Lease} {acquiring conversing releasing : Trace}
      (whole : attempt.steps = acquiring ++ conversing ++ releasing)
      (leased : attempt.steps.leases = [lease]) (there : lease.endpoint = attempt.pool.endpoint)
      (unsent : acquiring.requests = [] ∧ releasing.requests = [])
      (conversed : AsksFirst lease frame conversing attempt.outcome)

end Dispatcher

namespace Leg

open Dispatcher

/-- Where a leg leads: to the node of a temporary redirect, and otherwise back to the owner. -/
def onward (translator : Translator) (leg : Leg) : Route :=
  match leg.attempt.outcome with
  -- Only a temporary redirect leads anywhere else.
  | .ok (.ask _ target) => .asking (translator.apply target)
  | _ => .owner

/-- An attempt at the owner of the slot, or at any node that is alive, without `ASKING`. -/
structure ByTable (leg : Leg) (slot : Option Nat) : Prop where
  plain : leg.attempt.asking = false
  routed : Routed slot leg.aiming leg.attempt.pool
  unasked : leg.attempt.steps.Unasked

/-- An attempt at the node that a temporary redirect names, with `ASKING` first. -/
structure AtTarget (leg : Leg) (frame : Frame) (target : Endpoint) : Prop where
  asking : leg.attempt.asking = true
  targeted : Targeted target leg.aiming leg.attempt.pool
  there : leg.attempt.pool.endpoint.sameNode target = true
  asksOnce : AsksOnce frame leg.attempt

/-- A leg keeps to the route that was set for it. -/
def Keeps (leg : Leg) (slot : Option Nat) (frame : Frame) : Route → Prop
  -- Without a temporary redirect the table leads.
  | .owner => leg.ByTable slot
  | .asking target => leg.AtTarget frame target

end Leg

namespace Dispatcher

/-- Legs of which each keeps to the route that the one before it has set. -/
inductive OnCourse (translator : Translator) (slot : Option Nat) (frame : Frame) :
    Route → List Leg → Prop where
  | nil (route : Route) : OnCourse translator slot frame route []
  -- What a leg sets is for the next one only.
  | cons {route : Route} {leg : Leg} {rest : List Leg} (keeps : leg.Keeps slot frame route)
      (onward : OnCourse translator slot frame (leg.onward translator) rest) :
      OnCourse translator slot frame route (leg :: rest)

variable {others : ClientState → ClientState → Prop} {dispatcher : Dispatcher} {slot : Option Nat}
  {frame : Frame} {state last : ClientState} {steps trace : Trace}

/-- Who is to ask first does. -/
theorem asksFirst_of_converse {lease : Lease} {outcome : Except ClientError Signal}
    (run : Program.Amid others (converse lease frame true) state steps outcome last) :
    AsksFirst lease frame steps outcome := by
  obtain ⟨first, second, acknowledged, middle, rfl, requested, following⟩ :=
    Program.amid_bind_iff.1 run
  obtain rfl := Program.steps_of_request requested
  -- The answer to the prefix decides whether the command follows.
  split at following
  · -- Only a reply that is no error counts as an acknowledgement.
    rename_i reply accepted
    obtain ⟨rfl, normal⟩ := Redirect.classify_reply accepted
    obtain ⟨answer, _, rfl, rfl⟩ := exists_answer following
    exact .acknowledged normal answer
  · rename_i refused
    obtain ⟨rfl, rfl, _⟩ := Program.amid_done_iff.1 following
    exact .refused refused

/-- An attempt without `ASKING` has none. -/
theorem attempt_unasked (pool : PoolRef) (frame : Frame) :
    (attempt pool frame false).Within fun op => op.asks = false :=
  attempt_within pool ((Program.acquire_business pool).mono fun _ => Op.asks_of_business) nofun
    (fun lease => Program.request_within lease _ rfl rfl)
    -- Neither getting a connection nor giving it back sends the prefix, nor does a plain command.
    fun lease => (Program.release_business lease).mono fun _ => Op.asks_of_business

/-- Earlier steps do not change where the later ones lead. -/
theorem Routed.prepend {aiming : Trace} {pool : PoolRef} (routed : Routed slot aiming pool)
    (front : Trace) : Routed slot (front ++ aiming) pool := by
  -- Where the table was asked last is seen from the end, and what was found is in the later part.
  cases routed with
  | owned keyed told => exact .owned keyed (by rw [List.getLast?_append, told, Option.some_or])
  | fallen unowned alive =>
    exact .fallen (fun own keyed => List.mem_append_right _ (unowned own keyed)) alive.prepend

/-- A pool that is fallen back on has just shown that its node is alive. -/
theorem foundAlive_of_fallback {pool : PoolRef}
    (run : Program.Amid others fallback state steps (.ok pool) last) : steps.FoundAlive pool := by
  -- What is known of a fallback from the rules of the client is more than is needed here.
  have conducts : fallback.Conducts (Client.rules .identity) (fun now result =>
      now.isRediscovering = Trace.isRediscovering [] ∧ ∀ pool, result = .ok pool →
        now.FoundAlive pool) [] := Client.fallback_conducts
  exact (conducts.required_of_amid (fun _ _ => trivial) run).2 pool rfl

/-- The pool that is found for a slot is the one that the table tells, or one that is alive. -/
theorem routed_of_ownerPool {pool : PoolRef}
    (run : Program.Amid others (dispatcher.ownerPool slot) state steps (.ok pool) last) :
    Routed slot steps pool := by
  cases slot with
  -- A command without keys has no owner to be looked for.
  | none => exact .fallen nofun (foundAlive_of_fallback run)
  | some slot =>
    obtain ⟨before, _, rest, _, rfl, looking⟩ := Program.amid_ask_iff.1 run
    cases owned : (before.perform (.owner slot) ()).1 with
    -- The table named an owner, and that look was the last step.
    | some owner =>
      rw [owned] at looking
      obtain ⟨rfl, same, _⟩ := Program.amid_done_iff.1 looking
      rw [Except.ok.inj same]
      exact .owned rfl rfl
    | none =>
      rw [owned] at looking
      -- From here on the table has told that there is no owner.
      have unowned : ∀ later : Trace, ∀ own, some slot = some own →
          (⟨.owner own, none⟩ : Exchange) ∈ ⟨.owner slot, none⟩ :: later := by
        rintro later _ ⟨⟩
        exact List.mem_cons_self
      -- From here on the slot has no owner, so a pool found is one that was fallen back on.
      have fallen : ∀ (front : Trace) {back : Trace} {state : ClientState},
          Program.Amid others fallback state back (.ok pool) last →
            Routed (some slot) (⟨.owner slot, none⟩ :: front ++ back) pool := by
        intro front back state run
        exact .fallen (unowned _) (foundAlive_of_fallback run).prepend
      obtain ⟨before, _, rest, _, rfl, counting⟩ := Program.amid_ask_iff.1 looking
      simp only [Program.bind_done] at counting
      generalize (before.perform .nodeCount _).1 = known at counting ⊢
      split at counting
      -- Nobody is known who could tell of a layout.
      · exact fallen [⟨.nodeCount, known⟩] counting
      · -- The slot is looked up a second time once a layout may have been loaded.
        obtain ⟨loading, rest, _, _, rfl, _, again⟩ := Program.amid_bind_iff.1 counting
        obtain ⟨before, _, rest, _, rfl, found⟩ := Program.amid_ask_iff.1 again
        cases reowned : (before.perform (.owner slot) ()).1 with
        -- The second look is the last step, and it has named this owner.
        | some owner =>
          rw [reowned] at found
          obtain ⟨rfl, same, _⟩ := Program.amid_done_iff.1 found
          rw [Except.ok.inj same]
          refine .owned rfl ?_
          rw [← List.cons_append, ← List.cons_append, List.getLast?_append]
          rfl
        -- It has named none, so again a pool is fallen back on.
        | none =>
          rw [reowned] at found
          have routed := fallen (⟨.nodeCount, known⟩ :: loading ++ [⟨.owner slot, none⟩]) found
          simpa only [List.cons_append, List.append_assoc, List.nil_append] using routed

/-- Who asks a node first has no connection to it, or asks once and goes on only if told to. -/
theorem asksOnce_of_attempt {pool : PoolRef} {outcome : Except ClientError Signal}
    (run : Program.Amid others (attempt pool frame true) state steps outcome last) :
    AsksOnce frame ⟨pool, true, steps, outcome⟩ := by
  -- An attempt gets a connection, converses over it, and gives it back.
  obtain ⟨acquiring, following, acquired, middle, rfl, acquire, rest⟩ :=
    Program.amid_bind_iff.1 run
  have leased := Program.leases_of_acquire acquire
  have silent := acquire.requests_of_idle (Program.acquire_idle pool)
  -- Without a connection there is no conversation, and the failure is no reply.
  cases acquired with
  | error error =>
    obtain ⟨rfl, judged, _⟩ := Program.amid_done_iff.1 rest
    rw [List.append_nil]
    refine .unconnected leased silent fun reply => ?_
    show outcome ≠ .ok (.reply reply)
    rw [judged]
    split <;> simp
  | ok lease =>
    have there := Program.lease_of_acquire acquire
    obtain ⟨conversing, ending, outcome, _, rfl, conversation, ending⟩ :=
      Program.amid_bind_iff.1 rest
    obtain ⟨releasing, nothing, _, _, rfl, release, finished⟩ := Program.amid_bind_iff.1 ending
    -- Giving back is the last of it: the outcome stands already.
    obtain ⟨rfl, rfl, _⟩ := Program.amid_done_iff.1 finished
    have asked := asksFirst_of_converse conversation
    -- The only connection is the one that was checked out at first.
    have unleased : conversing.leases = [] := by
      cases asked <;> rfl
    have released := Program.leases_of_release release
    rw [List.append_nil, ← List.append_assoc]
    refine .connected rfl ?_ there
      ⟨silent, release.requests_of_idle (Program.release_idle lease)⟩ asked
    show (acquiring ++ conversing ++ releasing).leases = [lease]
    simp only [Trace.leases, List.filterMap_append] at leased unleased released ⊢
    rw [leased, unleased, released]
    rfl

/-- An attempt that is aimed at all finds the client open first. -/
theorem choose_of_aim {route : Route} {aimed : PoolRef × Bool}
    (run : Program.Amid others (dispatcher.aim slot route) state steps (.ok aimed) last) :
    ∃ before rest, others state before ∧ steps = ⟨.isClosed, false⟩ :: rest ∧
      Program.Amid others (dispatcher.choose slot route) before rest (.ok aimed) last := by
  -- A client that is found closed is aimed nowhere, so this one was open.
  obtain ⟨before, _, rest, meanwhile, rfl, looked⟩ := Program.amid_ask_iff.1 run
  cases closed : (before.perform .isClosed ()).1 with
  | true =>
    rw [closed] at looked
    obtain ⟨_, same, _⟩ := Program.amid_done_iff.1 looked
    simp at same
  | false =>
    rw [closed] at looked
    exact ⟨before, rest, meanwhile, rfl, looked⟩

/-- Towards the owner of a slot, the table leads or a node that is alive. -/
theorem aim_by_table {pool : PoolRef} {asking : Bool}
    (run : Program.Amid others (dispatcher.aim slot .owner) state steps (.ok (pool, asking)) last) :
    asking = false ∧ Routed slot steps pool := by
  obtain ⟨before, rest, _, rfl, chosen⟩ := choose_of_aim run
  obtain ⟨looking, rest, found, _, rfl, looked, judged⟩ := Program.amid_bind_iff.1 chosen
  obtain ⟨rfl, same, _⟩ := Program.amid_done_iff.1 judged
  -- Without an owner, and with nobody alive, there is no attempt to be made.
  cases found with
  | error error => simp [Except.map] at same
  | ok owner =>
    simp only [Except.map, Except.ok.injEq, Prod.mk.injEq] at same
    obtain ⟨rfl, rfl⟩ := same
    have routed := (routed_of_ownerPool looked).prepend [⟨.isClosed, false⟩]
    rw [List.append_nil]
    exact ⟨rfl, routed⟩

/-- Towards the node of a temporary redirect, the pool of that node leads. -/
theorem aim_at_target {target : Endpoint} {pool : PoolRef} {asking : Bool}
    (keyed : state.topology.Keyed)
    (run : Program.Amid ClientState.Later (dispatcher.aim slot (.asking target)) state steps
      (.ok (pool, asking)) last) :
    asking = true ∧ Targeted target steps pool ∧ pool.endpoint.sameNode target = true := by
  obtain ⟨before, rest, meanwhile, rfl, chosen⟩ := choose_of_aim run
  -- What others do in the meantime leaves every node under its own key.
  have keyed := keyed.later meanwhile
  obtain ⟨before, _, rest, meanwhile, rfl, looked⟩ := Program.amid_ask_iff.1 chosen
  have keyed := keyed.later meanwhile
  -- The node is known, or it has to be registered.
  cases known : (before.perform (.lookup target) ()).1 with
  | some found =>
    rw [known] at looked
    obtain ⟨rfl, same, _⟩ := Program.amid_done_iff.1 looked
    -- The pool handed out is the one that was found, and `ASKING` is called for.
    simp only [Except.map, Except.ok.injEq, Prod.mk.injEq] at same
    obtain ⟨rfl, rfl⟩ := same
    exact ⟨rfl, .known _, keyed.sameNode_of_lookup known⟩
  | none =>
    rw [known] at looked
    -- Others may have registered the node since, and then its pool is the one that is handed out.
    obtain ⟨later, _, rest, meanwhile, rfl, registered⟩ := Program.amid_ask_iff.1 looked
    have keyed := keyed.later meanwhile
    -- A closed client registers nobody, and then there is no attempt.
    cases made : (later.perform (.register target) ()).1 with
    | error error =>
      rw [made] at registered
      obtain ⟨_, same, _⟩ := Program.amid_done_iff.1 registered
      simp [Except.map] at same
    | ok found =>
      rw [made] at registered
      obtain ⟨rfl, same, _⟩ := Program.amid_done_iff.1 registered
      simp only [Except.map, Except.ok.injEq, Prod.mk.injEq] at same
      obtain ⟨rfl, rfl⟩ := same
      exact ⟨rfl, .registered _, keyed.sameNode_of_register made⟩

/-- A leg that is made keeps to its route. -/
theorem MakesAmid.onRoute {route : Route} {leg : Leg} (keyed : state.topology.Keyed)
    (made : dispatcher.MakesAmid ClientState.Later slot frame route state leg) :
    leg.Keeps slot frame route := by
  rcases leg with ⟨aiming, ⟨pool, asking, steps, outcome⟩, finish⟩
  obtain ⟨middle, aim, attempted⟩ := made
  -- The route decides which kind of leg it is, and the aim has followed it.
  cases route with
  | owner =>
    obtain ⟨rfl, routed⟩ := aim_by_table aim
    exact ⟨rfl, routed, attempted.within (attempt_unasked pool frame)⟩
  | asking target =>
    obtain ⟨rfl, targeted, there⟩ := aim_at_target keyed aim
    exact ⟨rfl, targeted, there, asksOnce_of_attempt attempted⟩

/-- What is done after an attempt leads where the attempt does. -/
theorem PassesAmid.route_eq {progress next : Progress} {leg : Leg} {between : Trace}
    {after : ClientState}
    (passes : dispatcher.PassesAmid others progress leg.attempt leg.finish between next after) :
    next.route = leg.onward dispatcher.translator := by
  -- Only after a temporary redirect the route is that of its target.
  cases passes with
  | moved redirected meanwhile assigned => simp [Leg.onward, redirected]
  | asked redirected => simp [Leg.onward, redirected]
  | failed lost rediscovered => simp [Leg.onward, lost]

namespace ItineraryAmid

variable {remaining : Nat} {progress : Progress} {legs : List Leg} {result : Except ClientError Frame}

/-- Each leg of an itinerary keeps to the route that the one before it has set. -/
theorem onCourse (keyed : state.topology.Keyed)
    (itinerary : dispatcher.ItineraryAmid ClientState.Later slot frame remaining progress state legs
      trace result last) :
    OnCourse dispatcher.translator slot frame progress.route legs := by
  -- The table stays keyed from leg to leg, so that targets can be told from other nodes.
  induction itinerary with
  | spent progress state => exact .nil _
  | lost aimed => exact .nil _
  | decided made ended => exact .cons (made.onRoute keyed) (.nil _)
  | refused made redirected meanwhile refused => exact .cons (made.onRoute keyed) (.nil _)
  | on made passes later ih =>
    -- Neither this leg nor what comes after it makes a node known under a foreign key.
    have onward := ih (passes.keeps Topology.Keyed.perform (made.keeps Topology.Keyed.perform keyed))
    rw [passes.route_eq] at onward
    exact .cons (made.onRoute keyed) onward

/-- `ASKING` is sent in attempts only. -/
theorem askings
    (itinerary : dispatcher.ItineraryAmid others slot frame remaining progress state legs trace result
      last) : trace.askings = legs.flatMap (·.attempt.steps.askings) := by
  refine itinerary.filterMap fun exchange own => ?_
  rcases exchange with ⟨op, answer⟩
  -- Pings and questions for a layout are the only requests of the client's own.
  cases op with
  | send lease request => cases request <;> first | rfl | simp [Op.isBusiness] at own
  | _ => rfl

end ItineraryAmid

/-- The dispatcher asks first only where a temporary redirect has led it. The runs of a command are its
itineraries, whose legs are the attempts with the way to each of them, those included that got no
connection. An attempt that follows an `ASK` directly goes to the node that the `ASK` names, at the
address that the client can reach; once it has a connection there, the first thing that it sends is
`ASKING`, once, and the command is the next thing on the same connection, if the answer to `ASKING` is
no error. Every other attempt is led by the slot table, or to a node that is alive, and there is no
`ASKING` in it; and none is sent outside of attempts. Others may take any steps meanwhile. -/
theorem execute_asks_once {command : Command} {result : Except ClientError Frame}
    (keyed : state.topology.Keyed)
    (run : Program.Amid ClientState.Later (dispatcher.execute command) state trace result last) :
    (∀ error, command.slot = .error error → trace = []) ∧
    ∀ slot, command.slot = .ok slot →
      (∃ legs, dispatcher.ItineraryAmid ClientState.Later slot command.toFrame dispatcher.maxRedirects {}
        state legs trace result last) ∧
      ∀ legs, dispatcher.ItineraryAmid ClientState.Later slot command.toFrame dispatcher.maxRedirects {}
          state legs trace result last →
        trace.askings = legs.flatMap (·.attempt.steps.askings) ∧
        OnCourse dispatcher.translator slot command.toFrame .owner legs := by
  unfold execute at run
  -- Whether it can be routed is known before the first step.
  refine ⟨fun error unroutable => ?_, fun slot routable => ?_⟩
  · -- A command that cannot be routed is over before it takes a step.
    rw [unroutable] at run
    exact (Program.amid_done_iff.1 run).1
  · rw [routable] at run
    exact ⟨run_amid_iff.1 run, fun legs itinerary => ⟨itinerary.askings, itinerary.onCourse keyed⟩⟩

/-- A command that is referred on for good and then for once has `ASKING` in one attempt, and the legs
before it have none. -/
theorem resharding_asks_once :
    resharding.2.2.askings.length = 1 ∧
      ∃ legs last, (Dispatcher.new .identity 5).ItineraryAmid ClientState.Later (some 3)
          (Command.get (Utf8.encode "raw")).toFrame 5 {} outdated legs resharding.2.2 (.ok .ok) last ∧
        resharding.2.2.askings = legs.flatMap (·.attempt.steps.askings) ∧
        OnCourse .identity (some 3) (Command.get (Utf8.encode "raw")).toFrame .owner legs := by
  -- The session is closed, so its answers are computed; the rest follows from the theorem.
  have asked : resharding.2.2.askings.length = 1 := by decide +kernel
  have replied : resharding.1 = .ok .ok := by decide +kernel
  have slot : (Command.get (Utf8.encode "raw")).slot = .ok (some 3) := by decide +kernel
  -- A client that knows nobody knows nobody under a wrong key, and assigning keeps it so.
  have fresh : (ClientState.initial {}).topology.Keyed := (Topology.consistent_new {}).keyed
  have keyed : outdated.topology.Keyed := fresh.assign [3] ⟨"127.0.0.1", 7000⟩
  have run : Program.Alone ((Dispatcher.new .identity 5).execute (.get (Utf8.encode "raw"))) outdated
      resharding.2.2 resharding.1 resharding.2.1 := by
    unfold resharding
    exact Program.alone_play _ _ _
  -- Nothing else about the session matters.
  generalize resharding = session at run asked replied ⊢
  rw [replied] at run
  obtain ⟨-, routed⟩ := execute_asks_once keyed run.amid
  obtain ⟨⟨legs, itinerary⟩, asks⟩ := routed _ slot
  obtain ⟨inside, onCourse⟩ := asks legs itinerary
  exact ⟨asked, legs, _, itinerary, inside, onCourse⟩

end Dispatcher

end RedisCluster
