import RedisCluster.Proofs.Client.Jobs
import RedisCluster.Proofs.Topology.Shut

/-! A client that knows no nodes: it never learns of any, and every command fails before it is sent. -/

namespace RedisCluster

namespace ClientState

/-- No nodes are known. -/
structure Stranded (state : ClientState) : Prop where
  consistent : state.topology.Consistent
  nodes : state.topology.nodes = []

namespace Stranded

variable {state : ClientState}

/-- Where no node is known, no slot has an owner. -/
theorem owner (stranded : state.Stranded) (slot : Nat) : state.topology.owner slot = none := by
  -- An owner would have to be registered.
  cases owns : state.topology.owner slot with
  | none => rfl
  | some pool =>
    have registered := stranded.consistent.owned slot pool owns
    simp [Topology.node?, stranded.nodes] at registered

/-- Where no node is known, every pool is closed, so it lets nobody in. -/
theorem enter (stranded : state.Stranded) (ref : PoolRef) :
    ∃ error, (state.perform (.enter ref) ()).1 = .error error := by
  simp only [perform, onPool]
  -- A pool that was never made lets nobody in either.
  split
  · exact ⟨_, rfl⟩
  · rename_i pool found
    -- The pool of a node that nobody knows can only be one that was closed.
    have closed : pool.closed = true := by
      rcases stranded.consistent.retired _ pool found with ⟨entry, member, _⟩ | closed
      · simp [stranded.nodes] at member
      · exact closed
    exact ⟨pool.closedError, by simp [Pool.enter, closed]⟩

/-- Whatever the order, no nodes are no nodes. -/
theorem knownPools (stranded : state.Stranded) (order : List PoolRef) :
    (state.perform .knownPools order).1 = [] := by
  have empty : state.topology.knownPools = [] := by simp [Topology.knownPools, stranded.nodes]
  simp only [perform, empty]
  -- Any order in which the pools are told is one of no pools.
  split
  · rename_i arranged
    exact (List.isPerm_iff.1 arranged).eq_nil
  · rfl

/-- A steady step makes no node known. -/
theorem steady (stranded : state.Stranded) {op : Op} (steady : op.isSteady = true)
    (choice : op.Choice) : (state.perform op choice).2.Stranded where
  consistent := (steady_perform steady state choice).consistent stranded.consistent
  nodes := (steady_perform steady state choice).nodes.trans stranded.nodes

/-- A client that is closed knows no nodes. -/
theorem close (stranded : state.Stranded) : (state.perform .close ()).2.Stranded where
  consistent := stranded.consistent.close
  nodes := by
    show state.topology.close.2.nodes = []
    -- Whether it was closed before or not, nothing is left in the table.
    unfold Topology.close
    split
    · exact stranded.nodes
    · rfl

end Stranded

end ClientState

/-- The end of a job that got nothing from any node. -/
def Outcome.Futile : Outcome → Prop
  | replied result => ∃ error, result = .error error ∧
      (Dispatcher.Unrouted error ∨ ∃ command : Command, command.slot = .error error)
  | rediscovered found => ∀ node, found ≠ .refreshed node
  | refreshed _ | closed _ => True

namespace Client

/-- What is done where no nodes are known, and what is answered there. -/
def strandedRules : Rules where
  allowed _
    | .isClosed | .owner _ | .nodeCount | .knownPools | .beginRediscovery | .endRediscovery
    | .enter _ | .close => True
    -- There are no nodes to send anything to, so it is not done.
    | _ => False
  granted _
    | ⟨.owner _, owner⟩ => owner = none
    | ⟨.nodeCount, count⟩ => count = 0
    | ⟨.knownPools, known⟩ => known = []
    | ⟨.enter _, entered⟩ => ∃ error, entered = .error error
    | _ => True

variable {past : Trace} {translator : Translator} {dispatcher : Dispatcher}

/-- No node can be asked for the layout. -/
theorem refreshFrom_stranded (pool : PoolRef) :
    (Discovery.refreshFrom translator pool).Conducts strandedRules (fun _ refreshed =>
      ∃ error, refreshed = .error error) past := by
  -- Already the pool refuses, so nothing is sent.
  refine ⟨trivial, fun entered refused => ?_⟩
  obtain ⟨error, rfl⟩ := refused
  exact ⟨error, rfl⟩

/-- No rediscovery finds anything. -/
theorem rediscover_stranded (preferred : Option PoolRef) :
    (Discovery.rediscover translator preferred).Conducts strandedRules (fun _ found =>
      ∀ node, found ≠ .refreshed node) past := by
  -- Nobody is known, so the search ends before it begins.
  have others : ∀ (asked : Option PoolRef) (past : Trace),
      (Discovery.askOthers translator asked).Conducts strandedRules (fun _ found => found = none)
        past := by
    refine fun asked past => ⟨trivial, fun known nobody => ?_⟩
    obtain rfl : known = [] := nobody
    exact rfl
  have passed : ∀ past : Trace, (Discovery.pass translator preferred).Conducts strandedRules
      (fun _ found => found = none) past := by
    intro past
    cases preferred with
    | none => exact others none past
    | some pool =>
      -- The preferred node fails, and there are no other nodes behind it.
      refine (refreshFrom_stranded pool).bind fun now refreshed failed => ?_
      obtain ⟨error, rfl⟩ := failed
      exact others (some pool) now
  refine ⟨trivial, fun started _ => ?_⟩
  -- A pass that was refused found nothing.
  cases started with
  | false => exact nofun
  | true =>
    -- The one that was let in found nothing either, and ends.
    refine (passed _).bind fun now found none_ => ⟨trivial, fun _ _ => ?_⟩
    subst none_
    exact nofun

/-- No node can be found for a command. -/
theorem ownerPool_stranded (slot : Option Nat) :
    (dispatcher.ownerPool slot).Conducts strandedRules (fun _ result =>
      ∃ error, result = .error error ∧ Dispatcher.Unrouted error) past := by
  -- No live node can be chosen among none.
  have fallen : ∀ past : Trace, Dispatcher.fallback.Conducts strandedRules (fun _ result =>
      ∃ error, result = .error error ∧ Dispatcher.Unrouted error) past := by
    refine fun past => ⟨trivial, fun closed _ => ?_⟩
    cases closed with
    | true => exact ⟨_, rfl, .inl rfl⟩
    | false =>
      refine ⟨trivial, fun known nobody => ?_⟩
      obtain rfl : known = [] := nobody
      exact ⟨_, rfl, .inr ⟨none, rfl⟩⟩
  cases slot with
  | none => exact fallen past
  | some slot =>
    refine ⟨trivial, fun owner nobody => ?_⟩
    -- Nobody owns the slot.
    obtain rfl : owner = none := nobody
    -- Without nodes it is not even worth a rediscovery.
    refine ⟨trivial, fun count zero => ?_⟩
    obtain rfl : count = 0 := zero
    exact fallen _

/-- Every command fails before it is sent. -/
theorem dispatch_stranded (command : Command) :
    (dispatcher.execute command).Conducts strandedRules (fun _ result =>
      Outcome.Futile (.replied result)) past := by
  unfold Dispatcher.execute
  split
  -- A command across slots fails by itself, with or without nodes.
  · rename_i error apart
    exact ⟨error, rfl, .inr ⟨command, apart⟩⟩
  · rename_i slot _
    -- There is at least one attempt, and already the first one finds no node.
    obtain ⟨remaining, budget⟩ := Nat.exists_eq_add_one.2 dispatcher.maxRedirects_pos
    rw [budget]
    refine ⟨trivial, fun closed _ => ?_⟩
    cases closed with
    -- A closed client fails with an error of its own.
    | true => exact ⟨_, rfl, .inl (.inl rfl)⟩
    | false =>
      have chosen : (dispatcher.choose slot .owner).Conducts strandedRules (fun _ result =>
          ∃ error, result = .error error ∧ Dispatcher.Unrouted error)
          (past ++ [⟨.isClosed, false⟩]) := by
        refine (ownerPool_stranded slot).bind fun now result failed => ?_
        obtain ⟨error, rfl, unrouted⟩ := failed
        exact ⟨error, rfl, unrouted⟩
      -- No node was chosen, and the error of the choice is that of the command.
      refine chosen.bind fun now result failed => ?_
      obtain ⟨error, rfl, unrouted⟩ := failed
      exact ⟨error, rfl, .inl unrouted⟩

/-- Every job is futile. -/
theorem program_stranded (client : Client) (job : Job) :
    (job.program client).Conducts strandedRules (fun _ outcome => outcome.Futile) past := by
  cases job with
  | execute command =>
    have executed : (client.execute command).Conducts strandedRules
        (fun _ result => Outcome.Futile (.replied result)) past := by
      refine ⟨trivial, fun closed _ => ?_⟩
      cases closed with
      -- A closed client is futile in the same way.
      | true => exact ⟨_, rfl, .inl (.inl rfl)⟩
      | false => exact dispatch_stranded command
    exact executed.bind fun _ _ futile => futile
  | dispatch command => exact (dispatch_stranded command).bind fun _ _ futile => futile
  | rediscover preferred => exact (rediscover_stranded preferred).bind fun _ _ futile => futile
  | refresh =>
    have refreshed : client.refreshTopology.Conducts strandedRules (fun _ _ => True) past := by
      -- A reload may well end in an error, and there is nothing to show of it.
      refine ⟨trivial, fun closed _ => ?_⟩
      cases closed with
      | true => trivial
      | false =>
        refine (rediscover_stranded none).bind fun _ found _ => ?_
        cases found <;> trivial
    exact refreshed.bind fun _ _ _ => trivial
  | close => exact ⟨trivial, fun _ _ => trivial⟩

variable {client : Client} {state last : ClientState} {moves : List (Move Outcome)}

/-- Where no nodes are known, steps are answered as granted. -/
theorem granted_of_stranded (stranded : state.Stranded) {op : Op} (choice : op.Choice) :
    strandedRules.granted past ⟨op, (state.perform op choice).1⟩ := by
  -- The four questions are answered by the four facts above, and nothing is granted of the rest.
  cases op with
  | owner slot => exact stranded.owner slot
  | nodeCount => exact congrArg List.length stranded.nodes
  | knownPools => exact stranded.knownPools choice
  | enter ref => exact stranded.enter ref
  | _ => trivial

/-- No turn of a task that keeps to these rules makes a node known. -/
theorem stranded_of_turn {before after : Task Outcome} {deed : Option Exchange}
    {required : Trace → Outcome → Prop} (turn : Task.Turn state before deed after last)
    (stranded : state.Stranded) (abides : before.Abides strandedRules required past) :
    last.Stranded := by
  cases turn with
  | @took op next holdings choice =>
    -- The rules leave out what would register, assign or rebuild, so each step is steady or a
    -- closing.
    have allowed : strandedRules.allowed past op := abides.1
    cases op with
    | close => exact stranded.close
    | _ => first | exact stranded.steady rfl choice | cases allowed
  | ended => exact stranded
  | gaveUp =>
    -- To give up returns a permit and ends a rediscovery, both of which are steady.
    exact Holdings.giveBack_keeps (fun state _ _ stranded => stranded.steady rfl ())
      (fun state stranded => stranded.steady rfl ()) _ stranded

/-- A client that knows no nodes never learns of any, whatever it is asked to do, and every job is
futile. -/
theorem stranded_run (stranded : state.Stranded)
    (jobs : ∀ program, .start program ∈ moves → ∃ job : Job, program = job.program client) :
    (∀ index outcome, (({ state } : System Outcome).run moves).outcome? index = some outcome →
      outcome.Futile) ∧
    (({ state } : System Outcome).run moves).state.Stranded := by
  -- The invariant of the state grants the answers, and the rules of the tasks keep the invariant.
  let suits : Trace → Task Outcome → Prop := fun past task =>
    task.Abides strandedRules (fun _ outcome => outcome.Futile) past
  -- There are no tasks yet when the jobs begin.
  have vacant : System.Each suits { state } fun _ => [] := .of_vacant state
  have starts : ∀ program, .start program ∈ moves → suits [] (Task.new program) := by
    intro program member
    obtain ⟨job, rfl⟩ := jobs program member
    exact program_stranded client job
  obtain ⟨each, still⟩ := vacant.run stranded starts fun turn stranded abides =>
    ⟨Task.Turn.abides turn (fun op choice _ => granted_of_stranded stranded choice) abides,
      stranded_of_turn turn stranded abides⟩
  exact ⟨fun index outcome found => each.holds index _ (System.outcome?_eq_some_iff.1 found), still⟩

end Client

end RedisCluster
