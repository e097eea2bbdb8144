import RedisCluster.Proofs.Client.Jobs
import RedisCluster.Proofs.Program.Turns
import RedisCluster.Proofs.Topology.Origins
import RedisCluster.Proofs.Topology.Shut

/-! Closing is final: whatever was under way when a client was closed, nothing fills its table again, and
whoever calls it from then on is told that it is closed. -/

namespace RedisCluster

namespace ClientState

variable {state : ClientState}

/-- Closing a client leaves nothing of what it knew. -/
theorem shut_of_close (tidy : state.topology.Tidy) (choice : Op.close.Choice) :
    (state.perform .close choice).2.Shut :=
  ⟨tidy_perform tidy .close choice, state.topology.closed_close⟩

/-- No step brings a node into a closed client. -/
theorem Shut.descends (shut : state.Shut) (op : Op) (choice : op.Choice) :
    Topology.Descends [] state.topology (state.perform op choice).2.topology := by
  have closed := shut.closed
  have stays : Topology.Descends [] state.topology state.topology := .refl _
  cases op with
  -- What would register a node is refused, and no other step does.
  | register node => simpa [ClientState.perform, withTopology, Topology.register, closed] using stays
  | assign slots node =>
    simpa [ClientState.perform, withTopology, Topology.assign, Topology.register, closed] using stays
  | rebuild ranges => simpa [ClientState.perform, withTopology, Topology.rebuild, closed] using stays
  -- The remaining steps bring in no nodes at any time.
  | _ => exact descends_perform state _ choice

/-- Every pool of a closed client is closed. -/
theorem Shut.closed_of_pool? (shut : state.Shut) {id : Nat} {pool : Pool}
    (found : state.topology.pool? id = some pool) : pool.closed = true := by
  -- A pool is that of a known node, or was retired. A closed client knows no nodes.
  rcases shut.tidy.retired id pool found with ⟨entry, member, _⟩ | closed
  · simp [shut.tidy.emptied shut.closed] at member
  · exact closed

end ClientState

namespace Job

/-- What a command or a reload comes to if the client is closed before it starts. -/
def refusal? : Job → Option Outcome
  | execute _ => some (.replied (.error .clientClosed))
  | refresh => some (.refreshed (.error .clientClosed))
  | dispatch _ | rediscover _ | close => none

/-- What is granted on a closed client: it says that it is closed. Nothing else is asked of it. -/
def closedRules : Rules where
  allowed past op := past = [] ∧ op = .isClosed
  granted _ exchange := exchange.op = .isClosed → exchange = ⟨.isClosed, true⟩

/-- A job that comes too late asks whether the client is closed, and gives up. -/
theorem program_conducts_closed (client : Client) {job : Job} {refusal : Outcome}
    (late : job.refusal? = some refusal) :
    (job.program client).Conducts closedRules
      (fun past outcome => past = [⟨.isClosed, true⟩] ∧ outcome = refusal) [] := by
  -- The answer is that it is, so the rest of the program does not matter.
  have said : ∀ answer : Bool, closedRules.granted [] ⟨.isClosed, answer⟩ → answer = true := by
    intro answer granted
    have same := granted rfl
    simpa using same
  cases job with
  | execute command =>
    -- A command asks for the flag before its slot is even computed.
    obtain rfl := Option.some.inj late
    refine ⟨⟨rfl, rfl⟩, fun answer granted => ?_⟩
    obtain rfl := said answer granted
    exact ⟨rfl, rfl⟩
  | refresh =>
    obtain rfl := Option.some.inj late
    refine ⟨⟨rfl, rfl⟩, fun answer granted => ?_⟩
    obtain rfl := said answer granted
    exact ⟨rfl, rfl⟩
  | dispatch command => cases late
  | rediscover preferred => cases late
  | close => cases late

/-- A job that comes too late is done after one step. -/
theorem program_endsWithin_closed (client : Client) {job : Job} {refusal : Outcome}
    (late : job.refusal? = some refusal) :
    (job.program client).EndsWithin ClientState.Shut 2 := by
  cases job with
  | execute command =>
    -- It is told at once that the client is closed, and has nothing left to do.
    intro state choice shut
    rw [shut.isClosed choice]
    trivial
  | refresh =>
    intro state choice shut
    rw [shut.isClosed choice]
    trivial
  | dispatch command => cases late
  | rediscover preferred => cases late
  | close => cases late

end Job

namespace Client

variable {client : Client} {state : ClientState} {front back since : List (Move Outcome)}
  {closer index : Nat} {closing : (op : Op) → op.Choice} {first : Bool}

/-- From the moment at which a client is closed on it is shut, and no pool is made any more. -/
theorem shut_since_closing (consistent : state.topology.Consistent)
    (closed : (({ state } : System Outcome).run front).turn? closer closing =
      some ⟨.close, first⟩) (back : List (Move Outcome)) :
    let after := (({ state } : System Outcome).run (front ++ .step closer closing :: back)).state
    after.Shut ∧ Topology.Descends [] (({ state } : System Outcome).run front).state.topology
      after.topology := by
  intro after
  -- The table is tidy when it is closed, since it was consistent at first.
  have tidy : (({ state } : System Outcome).run front).state.topology.Tidy :=
    System.keeps_run (fun state => state.topology.Tidy)
      (.of_consistent consistent) front
      fun _ op choice tidy => ClientState.tidy_perform tidy op choice
  obtain ⟨op, next, holdings, -, same, stepped⟩ := System.turn_cases closed
  -- The turn closed the client, so the operation that was due is the closing.
  obtain ⟨rfl, -⟩ := Exchange.mk.inj same
  have whole : front ++ .step closer closing :: back =
      (front ++ [.step closer closing]) ++ back := by simp
  show ClientState.Shut (System.run _ _).state ∧ Topology.Descends _ _ (System.run _ _).state.topology
  rw [whole, System.run_append, System.run_append]
  -- What was before the closing does not matter any more.
  generalize ({ state } : System Outcome).run front = before at tidy stepped
  have now : ((before.run [.step closer closing]).state).Shut ∧ Topology.Descends []
      before.state.topology (before.run [.step closer closing]).state.topology := by
    have step : (before.run [.step closer closing]).state =
        (before.state.perform .close (closing .close)).2 := stepped
    rw [step]
    exact ⟨ClientState.shut_of_close tidy _, before.state.descends_perform .close _⟩
  -- Closing brings in no nodes, and neither does any step behind it.
  exact System.keeps_run (fun later => later.Shut ∧
    Topology.Descends [] before.state.topology later.topology) now back
    fun _ op choice ⟨shut, descends⟩ =>
      ⟨shut.perform op choice, descends.trans (shut.descends op choice)⟩

/-- A command or a reload that is started on a closed client does nothing but ask, and is refused as soon
as it gets two turns. -/
theorem refused_of_late {job : Job} {refusal : Outcome} (late : job.refusal? = some refusal)
    (before since : List (Move Outcome))
    (shut : (({ state } : System Outcome).run before).state.Shut) :
    let system : System Outcome := { state }
    let index := (system.run before).tasks.length
    let moves := before ++ .start (job.program client) :: since
    (system.past index moves = [] ∨ system.past index moves = [⟨.isClosed, true⟩]) ∧
    (∀ outcome, (system.run moves).outcome? index = some outcome → outcome = refusal) ∧
    (.cancel index ∉ since → 2 ≤ since.countP (·.isTurn index) →
      (system.run moves).outcome? index = some refusal) := by
  intro system index moves
  have kept : ∀ (system : System Outcome) next, next ∈ .start (job.program client) :: since →
      system.state.Shut → (system.move next).state.Shut := fun system next _ shut =>
    System.keeps_move ClientState.Shut shut next fun _ op choice shut => shut.perform op choice
  -- As long as it runs the job has not asked yet, or has been told and is about to end.
  obtain ⟨last, here, asked, abides⟩ := System.suits_of_start (fun system => system.state.Shut)
    (fun past task => (past = [] ∨ past = [⟨.isClosed, true⟩]) ∧ task.Abides Job.closedRules
      (fun past outcome => past = [⟨.isClosed, true⟩] ∧ outcome = refusal) past) kept
    (fun {system before deed after last past} shut turn ⟨asked, abides⟩ => by
      have told : ∀ op (choice : op.Choice), Job.closedRules.allowed past op →
          Job.closedRules.granted past ⟨op, (system.state.perform op choice).1⟩ := by
        rintro op choice - rfl
        rw [shut.isClosed choice]
      refine ⟨?_, turn.abides told abides⟩
      cases turn with
      -- It had not asked yet, or else it would be at its end, and now it has been told.
      | took choice =>
        obtain ⟨rfl, rfl⟩ := abides.1
        right
        rw [shut.isClosed choice]
        rfl
      -- To end or to be cancelled adds nothing to what it has done.
      | ended => simpa using asked
      | gaveUp => simpa using asked)
    shut ⟨.inl rfl, job.program_conducts_closed client late⟩
  have only : ∀ outcome, (system.run moves).outcome? index = some outcome → outcome = refusal := by
    -- An outcome is the value of a finished task, which the rules restrict.
    intro outcome finished
    rw [System.outcome?_eq_some_iff] at finished
    obtain rfl := Option.some.inj (here.symm.trans finished)
    exact abides.2
  -- It needs one turn to ask and one to end.
  refine ⟨asked, only, fun spared enough => ?_⟩
  obtain ⟨outcome, finished⟩ := System.finishes_of_start (fun system => system.state.Shut) kept
    (fun _ shut => shut) shut (job.program_endsWithin_closed client late) spared enough
  rw [finished, only outcome finished]

/-- Any programs use a client, which one of them closes at some moment. From then on, whatever they do
and whatever is started, the client is closed and knows no nodes, no slot has an owner, and no pool is
made; every pool that was ever made is closed, among them every pool that anybody was ever handed out. A
command or a reload that is started from then on asks whether the client is closed and does nothing else.
It comes to nothing but the error that says so, and it gets that error if it gets its turns. -/
theorem closing_is_final (consistent : state.topology.Consistent)
    (closed : (({ state } : System Outcome).run front).turn? closer closing =
      some ⟨.close, first⟩) :
    let system : System Outcome := { state }
    let moves := front ++ .step closer closing :: back
    let before := (system.run front).state.topology
    let later := (system.run moves).state.topology
    later.closed = true ∧ later.nodes = [] ∧ (∀ slot, later.owner slot = none) ∧
    (∀ id pool, later.pool? id = some pool → pool.closed = true ∧
      ∃ old, before.pool? id = some old ∧ old.endpoint = pool.endpoint) ∧
    (∀ index, ∀ ref ∈ (system.past index moves).handed, ∃ pool, later.pool? ref.id = some pool ∧
      pool.endpoint = ref.endpoint ∧ pool.closed = true) ∧
    ∀ (client : Client) (job : Job) refusal index between since, job.refusal? = some refusal →
      back = between ++ .start (job.program client) :: since →
      index = (system.run (front ++ .step closer closing :: between)).tasks.length →
      (system.past index moves = [] ∨ system.past index moves = [⟨.isClosed, true⟩]) ∧
      (∀ outcome, (system.run moves).outcome? index = some outcome → outcome = refusal) ∧
      (.cancel index ∉ since → 2 ≤ since.countP (·.isTurn index) →
        (system.run moves).outcome? index = some refusal) := by
  intro system moves before later
  obtain ⟨shut, descends⟩ := shut_since_closing consistent closed back
  -- Every pool that was handed to anybody was made, and goes on being found.
  have rooted := System.rooted_run (α := Outcome) (.of_consistent consistent) moves
  refine ⟨shut.closed, shut.tidy.emptied shut.closed, shut.tidy.ownerless shut.closed,
    fun id pool found => ⟨shut.closed_of_pool? found, ?_⟩, fun index ref member => ?_, ?_⟩
  -- No node came in after the closing, so the pool was there before.
  · exact (descends.sources id pool found).resolve_right List.not_mem_nil
  · obtain ⟨pool, found, same⟩ := rooted.handed index ref member
    exact ⟨pool, found, same, shut.closed_of_pool? found⟩
  · rintro client job refusal index between since late rfl rfl
    -- The client was shut already when the job was started.
    obtain ⟨shut, -⟩ := shut_since_closing consistent closed between
    have whole : moves =
        (front ++ .step closer closing :: between) ++ .start (job.program client) :: since := by
      simp [moves]
    rw [whole]
    exact refused_of_late late _ since shut

/-- A client is closed while a reload has just been told of the one known node; a command comes too
late. -/
theorem closing_is_final_amid_reload :
    let client : Client := ⟨Dispatcher.new .identity 5⟩
    let surroundings : (op : Op) → op.Choice :=
      Op.surroundings (fun _ => .ok ()) fun _ _ => .ok .null
    let front : List (Move Outcome) := [.start (Job.refresh.program client), .step 0 surroundings,
      .step 0 surroundings, .step 0 surroundings, .start (Job.close.program client)]
    let late : List (Move Outcome) := [.start ((Job.execute .ping).program client),
      .step 2 surroundings, .step 0 surroundings, .step 2 surroundings]
    let state := ((ClientState.initial {}).perform (.register ⟨"127.0.0.1", 7000⟩) ()).2
    (({ state } : System Outcome).run (front ++ .step 1 surroundings :: late)).outcome? 2 =
        some (.replied (.error .clientClosed)) ∧
      ∃ pool, (({ state } : System Outcome).run
        (front ++ .step 1 surroundings :: late)).state.topology.pool? 0 = some pool ∧
          pool.closed = true := by
  intro client surroundings front late state
  -- One node was registered by hand before the jobs began.
  have consistent : state.topology.Consistent :=
    (Topology.consistent_new {}).register ⟨"127.0.0.1", 7000⟩
  have closed : (({ state } : System Outcome).run front).turn? 1 surroundings =
      some ⟨.close, true⟩ := rfl
  obtain ⟨-, -, -, -, handed, refused⟩ := @closing_is_final _ _ late _ _ _ consistent closed
  -- The reload was handed the pool of that node when it asked for the known pools.
  have member : ⟨0, ⟨"127.0.0.1", 7000⟩⟩ ∈ (({ state } : System Outcome).past 0
      (front ++ .step 1 surroundings :: late)).handed := List.mem_cons_self
  obtain ⟨pool, found, -, shut⟩ := handed 0 _ member
  -- The late command is given its two turns.
  obtain ⟨-, -, told⟩ := refused client (.execute .ping) _ 2 [] _ rfl rfl rfl
  exact ⟨told (by simp) (by simp [Move.isTurn]), pool, found, shut⟩

end Client

end RedisCluster
