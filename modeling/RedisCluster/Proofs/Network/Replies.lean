import RedisCluster.Proofs.Client.Calls
import RedisCluster.Proofs.Network.Grips

/-! Requests over pooled wires: whoever gets an answer gets the reply to its own request, whatever others
do, and whatever fails or is cancelled. -/

namespace RedisCluster

namespace Network

variable {α : Type} {network : Network α} {dialer : Dialer} {phase : Nat → Phase} {past : Nat → Trace}
  {index : Nat}

/-- A task that is to take a step is at that step of its program. -/
theorem op?_eq_some {op : Op} (next : network.op? index = some op) :
    ∃ follow holdings, network.system.tasks[index]? = some (.running (.ask op follow) holdings) := by
  obtain ⟨task, found, same⟩ := Option.bind_eq_some_iff.1 next
  rcases task with ⟨value | ⟨first, follow⟩, holdings⟩ | value | _
  · cases same
  -- A task that goes on is at the first step of the rest of its program.
  · obtain rfl := Option.some.inj same
    exact ⟨follow, holdings, found⟩
  · cases same
  · cases same

/-- What a step that comes to its end does on the wires. -/
theorem serve_eq_some {surroundings made : (op : Op) → op.Choice} {script : Script} {op : Op}
    {after : Wires} (served : network.serve dialer surroundings script op = some (made, after)) :
    network.wires.Serve dialer network.system.state op (made op) after := by
  cases about : network.system.state.wire? op with
  | none =>
    -- Without a wire the surroundings alone decide.
    unfold serve at served
    simp only [about] at served
    cases served
    exact .quiet _ about
  | some place =>
    unfold serve at served
    simp only [about] at served
    cases op with
    -- A connection is opened, is refused, or cannot be opened.
    | connect ref ticket =>
      dsimp only at served
      split at served
      · rename_i error refused
        cases served
        rw [refused]
        exact .refused ref ticket error
      · rename_i wire reached dialled
        cases served
        rw [reached]
        exact .opened about dialled
      · cases served
        exact .refused ref ticket _
      · cases served
    | answer lease request =>
      -- A direct connection has no wire that is kept.
      cases lease with
      | direct node number => cases about
      | pooled ref ticket =>
        dsimp only at served
        split at served
        · rename_i exchanged
          cases served
          exact .replied about exchanged
        · rename_i exchanged
          cases served
          exact .failed about exchanged
        · cases served
    | _ => cases about

/-- Who is cut short leaves a mark on a wire only if it waits for an answer over it. -/
theorem interrupt_touches {script : Script} {op : Op} {place : Nat × Nat}
    (touched : network.interrupt script op place ≠ network.wires place) :
    (∃ lease request, op = .answer lease request) ∧ network.system.state.wire? op = some place := by
  cases op with
  | answer lease request =>
    -- It waits for an answer over a wire, or over none.
    cases about : network.system.state.wire? (.answer lease request) with
    | none => simp [interrupt, about] at touched
    | some there =>
      simp only [interrupt, about] at touched
      by_cases same : place = there
      · exact ⟨⟨lease, request, rfl⟩, by rw [same]⟩
      · exact absurd (Wires.put_other _ _ same) touched
  | _ => exact absurd rfl touched

/-- The tasks of a network are in their places and polite, and each of them finds its connection and its
wire as it has made them; whatever connection is fit for a request has a clean wire. -/
structure Tended (network : Network α) (phase : Nat → Phase) (past : Nat → Trace) : Prop where
  occupied : network.system.Occupied phase
  polite : network.system.Each
    (fun past task => task.Abides Client.manners (fun _ _ => True) past) past
  clean : ∀ id connection, network.system.state.topology.Fit id connection →
    (network.wires (id, connection)).Clean
  fits : ∀ index, Grip.Fits network.system.state.topology network.wires (phase index)
    (past index).grip

namespace Tended

variable {state : ClientState} {tasks : List (Task α)} {wires after : Wires} {holdings : Holdings}

/-- A new task has no connection yet. -/
theorem start (tended : Tended ⟨⟨state, tasks⟩, wires⟩ phase past) {program : Program α}
    (visiting : program.Visiting) (polite : Client.Polite program []) :
    Tended ⟨⟨state, tasks ++ [Task.new program]⟩, wires⟩ phase past :=
  ⟨tended.occupied.start visiting, tended.polite.start program polite, tended.clean, tended.fits⟩

/-- A task that takes a step leaves all wires as everyone expects them. -/
theorem took (tended : Tended ⟨⟨state, tasks⟩, wires⟩ phase past) (sendable : dialer.Sendable)
    {op : Op} {follow : op.Answer → Program α} {choice : op.Choice}
    (found : tasks[index]? = some (.running (.ask op follow) holdings))
    (served : wires.Serve dialer state op choice after) :
    ∃ phase past, Tended
      ⟨⟨(state.perform op choice).2, tasks.set index
        (.running (follow (state.perform op choice).1)
          (holdings.after op (state.perform op choice).1))⟩, after⟩ phase past := by
  have housed : Housed state.topology phase := tended.occupied.housed
  have abides := tended.polite.holds index _ found
  have stands := tended.occupied.stands index _ found
  obtain ⟨place, leads, orderly⟩ := stands.1 (state.perform op choice).1
  refine ⟨settle phase index place,
    System.extend past index (some ⟨op, (state.perform op choice).1⟩),
    tended.occupied.set found (housed.perform leads) ⟨orderly, leads.places stands.2⟩,
    tended.polite.turn _ found (abides.2 _ trivial), fun id connection fit => ?_, fun other => ?_⟩
  -- A connection that is fit after the step was fit before it, or this step has made it so.
  · exact housed.clean_perform sendable tended.clean leads (tended.fits index) abides.1 served fit
  · by_cases mine : other = index
    -- This task has made of its connection what the step says.
    · subst mine
      have fits := housed.grip_perform tended.clean leads (tended.fits other) abides.1 served
      simpa [System.extend] using fits
    · -- The other tasks have other places and other wires.
      rw [settle_other _ _ mine, System.extend, if_neg (Ne.symm mine)]
      refine (tended.fits other).frame fun ref ticket connection broken inside staged => ?_
      exact ⟨housed.staged_perform leads mine inside staged,
        served.same fun about => mine (housed.wire_apart leads inside staged about)⟩

/-- A task that comes to its end had no connection any more. -/
theorem ended (tended : Tended ⟨⟨state, tasks⟩, wires⟩ phase past) {value : α}
    (found : tasks[index]? = some (.running (.done value) holdings)) :
    Tended ⟨⟨state, tasks.set index (.finished value)⟩, wires⟩ phase past :=
  ⟨(tended.occupied.finish found).2, tended.polite.stop state found trivial, tended.clean, tended.fits⟩

/-- A connection over which a task waits for an answer is not fit for another request, and nobody else
has it. -/
theorem wire_of_asked (tended : Tended ⟨⟨state, tasks⟩, wires⟩ phase past) {lease : Lease}
    {request : Request} {follow : Except ClientError Frame → Program α}
    (found : tasks[index]? = some (.running (.ask (.answer lease request) follow) holdings))
    {id connection : Nat} (about : state.wire? (.answer lease request) = some (id, connection)) :
    ¬ state.topology.Fit id connection ∧ ∀ other ref ticket stay broken,
      phase other = .inside ref ticket stay → ref.id = id →
      state.topology.Staged ref.id ticket (.checkedOut connection broken) → other = index := by
  have housed : Housed state.topology phase := tended.occupied.housed
  -- A pool would not take an answer from a connection that nobody has asked anything on.
  cases lease with
  | direct node number => cases about
  | pooled ref ticket =>
    obtain ⟨place, leads, _⟩ := (tended.occupied.stands index _ found).1 (.ok .ok)
    obtain ⟨own, mine, staged, _⟩ :=
      (tended.fits index).asked leads (tended.polite.holds index _ found).1
    obtain ⟨rfl, rfl⟩ := Prod.mk.inj (Option.some.inj (mine.symm.trans about))
    -- Two tasks at one connection are one task.
    refine ⟨housed.not_fit staged, fun other there ticket stay broken inside same staged => ?_⟩
    exact housed.wire_apart leads inside staged (same ▸ about)

/-- A task that is cancelled leaves what it had in the pool or ruins it, and nothing else. -/
theorem gaveUp (tended : Tended ⟨⟨state, tasks⟩, wires⟩ phase past) {rest : Program α}
    (found : tasks[index]? = some (.running rest holdings))
    (cut : ∀ place, after place ≠ wires place → ∃ lease request follow,
      rest = .ask (.answer lease request) follow ∧
        state.wire? (.answer lease request) = some place) :
    ∃ phase, Tended ⟨⟨holdings.giveBack state, tasks.set index .cancelled⟩, after⟩ phase past := by
  have housed : Housed state.topology phase := tended.occupied.housed
  have same : holdings.places = (phase index).places := (tended.occupied.stands index _ found).2
  have left : (holdings.giveBack state).topology = state.topology.vacate (phase index) :=
    Task.topology_giveBack same state
  -- A task that is cancelled is away, whatever it was about.
  refine ⟨settle phase index .away, tended.occupied.set found (housed.giveBack same) rfl,
    tended.polite.stop _ found trivial, fun id connection fit => ?_, fun other => ?_⟩
  · have before : state.topology.Fit id connection := by
      rw [left] at fit
      exact housed.fit_vacate fit
    -- A wire that has changed is that of a request which the task was waiting for.
    by_cases kept : after (id, connection) = wires (id, connection)
    · show (after (id, connection)).Clean
      rw [kept]
      exact tended.clean id connection before
    · obtain ⟨lease, request, follow, rfl, about⟩ := cut _ kept
      exact absurd before (tended.wire_of_asked found about).1
  · by_cases mine : other = index
    · rw [mine, settle_same]
      -- It has no place any more, so nothing is expected of its wire.
      exact .away _
    · rw [settle_other _ _ mine]
      refine (tended.fits other).frame fun ref ticket connection broken inside staged => ⟨?_, ?_⟩
      · have still := housed.staged_vacate mine inside staged
        rwa [← left] at still
      -- A wire that was cut belongs to the task that is cancelled.
      · refine Classical.byContradiction fun touched => ?_
        obtain ⟨lease, request, follow, rfl, about⟩ := cut _ touched
        exact mine ((tended.wire_of_asked found about).2 other ref ticket _ broken inside rfl staged)

/-- Whatever step a task takes, everyone finds what it expects. -/
theorem step (tended : network.Tended phase past) (sendable : dialer.Sendable) (index : Nat)
    (surroundings : (op : Op) → op.Choice) (script : Script) :
    ∃ phase past, (network.move dialer (.step index surroundings script)).Tended phase past := by
  obtain ⟨⟨state, tasks⟩, wires⟩ := network
  cases turn : op? ⟨⟨state, tasks⟩, wires⟩ index with
  | none =>
    -- A task that takes no step comes to its end at most.
    simp only [Network.move, effect?, turn]
    rcases System.move_step_cases ⟨state, tasks⟩ index surroundings with
      ⟨op, follow, holdings, found, _⟩ | ⟨value, holdings, found, _, moved⟩ | ⟨_, moved⟩
    · have here : tasks[index]? = some (.running (.ask op follow) holdings) := found
      simp [op?, here, Task.op?, Program.op?] at turn
    · rw [moved]
      exact ⟨phase, past, tended.ended found⟩
    · rw [moved]
      exact ⟨phase, past, tended⟩
  | some op =>
    obtain ⟨follow, holdings, found⟩ := op?_eq_some turn
    have here : tasks[index]? = some (.running (.ask op follow) holdings) := found
    cases served : serve dialer ⟨⟨state, tasks⟩, wires⟩ surroundings script op with
    | none =>
      -- A script that runs out leaves the task waiting.
      simp only [Network.move, effect?, turn, served, Option.map_none]
      exact ⟨phase, past, tended⟩
    | some given =>
      obtain ⟨made, after⟩ := given
      have moved := tended.took sendable here (serve_eq_some served)
      simpa [Network.move, effect?, turn, served, System.move, System.onTask, here, Task.step]
        using moved

/-- Wherever a task is cancelled, the others find what they expect. -/
theorem cancel (tended : network.Tended phase past) (index : Nat) (script : Script) :
    ∃ phase past, (network.move dialer (.cancel index script)).Tended phase past := by
  obtain ⟨⟨state, tasks⟩, wires⟩ := network
  cases found : tasks[index]? with
  | none =>
    simp only [Network.move, effect?, op?, found, Option.bind_none, Option.elim_none, System.move,
      System.onTask]
    exact ⟨phase, past, tended⟩
  | some task =>
    -- A task that does not run is put back as it is.
    have same : tasks.set index task = tasks := by
      obtain ⟨inside, here⟩ := List.getElem?_eq_some_iff.1 found
      rw [← here, List.set_getElem_self]
    cases task with
    | running rest holdings =>
      -- Only the wire that the task waits on is cut.
      have cut : ∀ place,
          rest.op?.elim wires (interrupt ⟨⟨state, tasks⟩, wires⟩ script) place ≠ wires place →
          ∃ lease request follow, rest = .ask (.answer lease request) follow ∧
            state.wire? (.answer lease request) = some place := by
        intro place touched
        cases rest with
        -- A task that is about to end waits for nobody.
        | done value => exact absurd rfl touched
        | ask op follow =>
          obtain ⟨⟨lease, request, rfl⟩, about⟩ := interrupt_touches touched
          exact ⟨lease, request, follow, rfl, about⟩
      obtain ⟨phase, moved⟩ := tended.gaveUp found cut
      refine ⟨phase, past, ?_⟩
      simpa [Network.move, effect?, op?, found, Task.op?, System.move, System.onTask, Task.cancel]
        using moved
    | _ =>
      refine ⟨phase, past, ?_⟩
      -- Only a task that runs can be cut short.
      simpa [Network.move, effect?, op?, found, Task.op?, System.move, System.onTask, Task.cancel,
        same] using tended

/-- Whatever move is made, everyone finds what it expects. -/
theorem move (tended : network.Tended phase past) (sendable : dialer.Sendable) (next : Move α)
    (starts : ∀ program, next = .start program →
      program.Visiting ∧ Client.Polite program []) :
    ∃ phase past, (network.move dialer next).Tended phase past := by
  cases next with
  | start program =>
    obtain ⟨visiting, polite⟩ := starts program rfl
    exact ⟨phase, past, tended.start visiting polite⟩
  | step index surroundings script => exact tended.step sendable index surroundings script
  | cancel index script => exact tended.cancel index script

/-- Everyone finds what it expects at every moment. -/
theorem run (tended : network.Tended phase past) (sendable : dialer.Sendable) {moves : List (Move α)}
    (starts : ∀ program, .start program ∈ moves → program.Visiting ∧ Client.Polite program []) :
    ∃ phase past, (network.run dialer moves).Tended phase past := by
  induction moves generalizing network phase past with
  -- The induction is on the moves; whatever they start is a job that visits and is polite.
  | nil => exact ⟨phase, past, tended⟩
  | cons next rest ih =>
    obtain ⟨_, _, moved⟩ := tended.move sendable next fun program same =>
      starts program (same ▸ List.mem_cons_self)
    exact ih moved fun program member => starts program (List.mem_cons_of_mem next member)

end Tended

/-- The step that a move has a task take. -/
def deed? (dialer : Dialer) (network : Network α) (index : Nat) (next : Move α) : Option Exchange :=
  (network.effect? dialer next).bind fun made => network.system.deed? index made.1

/-- A step that a task takes is the next one of its program, answered as it turned out on the wires. -/
theorem deed?_eq_some {next : Move α} {exchange : Exchange}
    (deed : network.deed? dialer index next = some exchange) :
    ∃ op follow holdings choice, network.system.tasks[index]? = some (.running (.ask op follow) holdings) ∧
      exchange = ⟨op, (network.system.state.perform op choice).1⟩ ∧
      network.wires.Serve dialer network.system.state op choice (network.move dialer next).wires := by
  cases next with
  | start program => cases deed
  | cancel turn script => cases deed
  | step turn surroundings script =>
    -- The step that is recorded is one that the task was at.
    have mine : ∀ {made : (op : Op) → op.Choice},
        network.system.deed? index (.step turn made) = some exchange → turn = index ∧
          ∃ op follow holdings, network.op? turn = some op ∧
            network.system.tasks[index]? = some (.running (.ask op follow) holdings) ∧
            exchange = ⟨op, (network.system.state.perform op (made op)).1⟩ := by
      intro made did
      simp only [System.deed?] at did
      split at did
      · rename_i same
        subst same
        obtain ⟨op, follow, holdings, found, same, _⟩ := System.turn_cases did
        exact ⟨rfl, op, follow, holdings, by simp [op?, found, Task.op?, Program.op?], found, same⟩
      · cases did
    cases turns : network.op? turn with
    | none =>
      -- A task that has no step to take has taken none.
      simp only [deed?, effect?, turns, Option.bind_some] at deed
      obtain ⟨_, op, _, _, here, _⟩ := mine deed
      simp [turns] at here
    | some op =>
      cases served : network.serve dialer surroundings script op with
      -- A step that the script does not bring about is not taken.
      | none => simp [deed?, effect?, turns, served] at deed
      | some given =>
        obtain ⟨made, after⟩ := given
        simp only [deed?, effect?, turns, served, Option.map_some, Option.bind_some] at deed
        obtain ⟨_, other, follow, holdings, here, found, same⟩ := mine deed
        obtain rfl := Option.some.inj (turns.symm.trans here)
        -- The step was taken as the wires had it.
        refine ⟨op, follow, holdings, made op, found, same, ?_⟩
        simpa [Network.move, effect?, turns, served] using serve_eq_some served

end Network

namespace Client

variable {client : Client} {dialer : Dialer} {start : Network Outcome}

/-- Whoever gets an answer over a pooled connection gets the node's reply to the very request that it made:
the node has received that request, answered it with that reply and has taken nothing else down
meanwhile. And connections that are idle have nothing left over: no byte that is not decoded, no request
that is half written and no reply under way. -/
theorem replies_match (sendable : dialer.Sendable) (idle : start.system.tasks = [])
    (unused : ∀ id pool, start.system.state.topology.pool? id = some pool →
      pool = Pool.new pool.endpoint pool.config)
    (moves : List (Network.Move Outcome))
    (jobs : ∀ program, .start program ∈ moves →
      ∃ job : Job, job.Sendable ∧ program = job.program client) :
    let now := start.run dialer moves
    (∀ id pool, now.system.state.topology.pool? id = some pool →
      ∀ connection ∈ pool.idle, (now.wires (id, connection)).Clean) ∧
    ∀ index next ref ticket request frame,
      now.deed? dialer index next = some ⟨.answer (.pooled ref ticket) request, .ok frame⟩ →
      ∃ connection, now.system.state.connection? (ref, ticket) = some connection ∧
        ((now.move dialer next).wires (ref.id, connection)).stream.log =
          (now.wires (ref.id, connection)).stream.log ++ [(request.frame, frame)] ∧
        ((now.move dialer next).wires (ref.id, connection)).Clean := by
  intro now
  -- At the start there are no tasks, and no pool has ever been used.
  have fresh : Network.Tended start (fun _ => .away) fun _ => [] := by
    refine ⟨System.occupied_of_unused idle unused, ⟨fun index task found => ?_, fun _ _ => rfl⟩,
      fun id connection fit => ?_, fun _ => .away _⟩
    · simp [idle] at found
    · -- A pool that nobody has used has no connections.
      obtain ⟨pool, found, fit⟩ := fit
      rw [unused id pool found] at fit
      rcases fit with ready | ⟨ticket, held⟩
      · cases ready
      · cases held
  obtain ⟨phase, past, tended⟩ := fresh.run sendable fun program member => by
    obtain ⟨job, short, rfl⟩ := jobs program member
    exact ⟨job.program_visiting client, job.program_polite client short⟩
  refine ⟨fun id pool found connection ready => ?_, fun index next ref ticket request frame deed => ?_⟩
  -- An idle connection is fit, and so its wire is clean.
  · exact tended.clean id connection ⟨pool, found, .inl ready⟩
  · obtain ⟨op, follow, holdings, choice, found, same, served⟩ := Network.deed?_eq_some deed
    obtain ⟨rfl, value⟩ := Exchange.mk.inj same
    obtain rfl := eq_of_heq value
    -- The task has asked, and asked for this.
    obtain ⟨_, leads, _⟩ := (tended.occupied.stands index _ found).1 (.ok frame)
    obtain ⟨connection, mine, _, clean, short⟩ :=
      (tended.fits index).asked leads (tended.polite.holds index _ found).1
    have connected : now.system.state.connection? (ref, ticket) = some connection := by
      obtain ⟨number, known, same⟩ := Option.map_eq_some_iff.1 mine
      rw [known, (Prod.mk.inj same).2]
    refine ⟨connection, connected, ?_⟩
    -- Over a pool there is always a wire.
    generalize (now.move dialer next).wires = after at served
    cases served with
    | quiet choice still => exact absurd (still.symm.trans mine) nofun
    | replied here exchanged =>
      -- The wire of this step is the one that the task waits on.
      obtain rfl := Option.some.inj (here.symm.trans mine)
      rw [Wires.put_same]
      exact (clean.exchange short exchanged).symm

/-- The reply of a node that says one word. -/
def late : NodeReply :=
  ⟨.simple "late", Frame.encode (.simple "late"), rfl⟩

/-- The reply of a node that says another word. -/
def fresh : NodeReply :=
  ⟨.simple "fresh", Frame.encode (.simple "fresh"), rfl⟩

/-- A turn of a task, which goes by a script. -/
def turn (task : Nat) (script : Script) : Network.Move Outcome :=
  .step task (Op.surroundings (fun _ => .ok ()) fun _ _ => .ok (.simple "OK")) script

/-- A command is cancelled when two bytes of its reply have arrived, and another one comes to wait for its
reply. -/
def secondAsked : List (Network.Move Outcome) :=
  .start reading :: List.replicate 7 (turn 0 {}) ++
    [.cancel 0 { writes := [.accepts 100], reads := [.bytes 1], reply := fun _ => late }] ++
    .start reading :: List.replicate 7 (turn 1 {})

/-- A client with the other command waiting for its reply. -/
def interrupted : Network Outcome :=
  Network.run {} { system := frugal } secondAsked

/-- The other command is written in two pieces and answered in two pieces. -/
def secondAnswered : Network.Move Outcome :=
  turn 1 { writes := [.accepts 3, .accepts 100], reads := [.bytes 0, .bytes 100], reply := fun _ => fresh }

/-- The reply to a command that was cancelled is not taken for the reply to the next one. -/
theorem late_reply_discarded :
    let frame := (Command.get (Utf8.encode "raw")).toFrame
    (interrupted.wires (0, 0)).stream.underway ≠ [] ∧
      interrupted.deed? {} 1 secondAnswered =
        some ⟨.answer (.pooled ⟨0, ⟨"127.0.0.1", 7000⟩⟩ 1) (.command frame), .ok fresh.frame⟩ ∧
      ∃ connection,
        interrupted.system.state.connection? (⟨0, ⟨"127.0.0.1", 7000⟩⟩, 1) = some connection ∧
        ((interrupted.move {} secondAnswered).wires (0, connection)).stream.log =
          (interrupted.wires (0, connection)).stream.log ++ [(frame, fresh.frame)] ∧
        ((interrupted.move {} secondAnswered).wires (0, connection)).Clean := by
  intro frame
  have answered : interrupted.deed? {} 1 secondAnswered =
      some ⟨.answer (.pooled ⟨0, ⟨"127.0.0.1", 7000⟩⟩ 1) (.command frame), .ok fresh.frame⟩ := by
    decide +kernel
  have jobs : ∀ program, .start program ∈ secondAsked → ∃ job : Job, job.Sendable ∧
      program = job.program ⟨Dispatcher.new .identity 5⟩ := by
    -- The only job that is started is the reading of one key.
    intro program member
    refine ⟨.dispatch (.get (Utf8.encode "raw")), ?_, ?_⟩
    · show (Command.toFrame _).encode.length < vast
      decide
    · simpa [secondAsked, turn, reading] using member
  -- A dialer without a handshake sends nothing.
  have silent : Dialer.Sendable {} := by
    intro step member
    cases member
  have matched := @replies_match ⟨Dispatcher.new .identity 5⟩ {} { system := frugal } silent rfl
    (fun _ _ => frugal_unused) secondAsked jobs
  have same : Network.run {} { system := frugal } secondAsked = interrupted := rfl
  -- What is sent is the frame of the command.
  have named : (Request.command frame).frame = frame := rfl
  simp only [same] at matched
  have served := matched.2 _ _ _ _ _ _ answered
  simp only [named] at served
  exact ⟨by decide +kernel, answered, served⟩

end Client

end RedisCluster
