import RedisCluster.Proofs.Dispatcher.Attempts
import RedisCluster.Proofs.Pool.Undisturbed

/-! An attempt that nobody disturbs, at a node that can be reached: the command is sent and
answered, and the pool is as free afterwards as it was before. -/

namespace RedisCluster

/-- The reply to `ASKING`. -/
def Exchange.acknowledgement? : Exchange → Option Frame
  | ⟨.answer _ .asking, .ok frame⟩ => some frame
  | _ => none

/-- A node can be reached, answers, and acknowledges `ASKING`. -/
def Exchange.Willing (exchange : Exchange) : Prop :=
  exchange.failure? = none ∧ ∀ frame ∈ exchange.acknowledgement?, frame.asError = none

instance (exchange : Exchange) : Decidable exchange.Willing :=
  inferInstanceAs (Decidable (_ ∧ _))

/-- Surroundings in which every node can be reached and gives one reply to everything. -/
def Op.affirmative (reply : Frame) : (op : Op) → op.Choice :=
  Op.surroundings (fun _ => .ok ()) fun _ _ => .ok reply

/-- A node that can be reached and acknowledges `ASKING` is willing, whatever it replies to commands. -/
theorem Op.affirmative_willing (state : ClientState) (op : Op) {reply : Frame}
    (acknowledges : op.carriesCommand = false → reply.asError = none) :
    Exchange.Willing ⟨op, (state.perform op (op.affirmative reply)).1⟩ := by
  -- Only an answer can be a failure or an acknowledgement, and this one is neither.
  cases op with
  | answer lease request =>
    cases request with
    | asking => exact ⟨rfl, fun frame same => by rw [← Option.some.inj same]; exact acknowledges rfl⟩
    | _ => exact ⟨rfl, nofun⟩
  | _ => exact ⟨rfl, nofun⟩

/-- A step in which the client asks a question of its own. -/
def Op.isProbe : Op → Bool
  | .send _ .ping | .send _ .layout => true
  | _ => false

/-- Where nothing is asked of a node, the client asks no questions of its own. -/
theorem Op.isProbe_of_idle (op : Op) (silent : op.isTraffic = false) : op.isProbe = false := by
  -- A probe is sent, and what is sent is traffic.
  cases op <;> first | rfl | simp [isTraffic] at silent

namespace Trace

/-- The client asks no questions of its own. -/
def Unprobed (trace : Trace) : Prop :=
  ∀ exchange ∈ trace, exchange.op.isProbe = false

/-- Traces without questions of the client's own may follow one another. -/
theorem Unprobed.append {front back : Trace} (first : front.Unprobed) (second : back.Unprobed) :
    Unprobed (front ++ back) :=
  List.forall_mem_append.2 ⟨first, second⟩

/-- Without questions of the client's own nothing but commands and `ASKING` is sent. -/
theorem Unprobed.requests {trace : Trace} (unprobed : trace.Unprobed) :
    ∀ sent ∈ trace.requests, sent.2 ≠ .ping ∧ sent.2 ≠ .layout := by
  intro sent member
  -- What was requested is a step of the trace, and that step is no probe.
  obtain ⟨⟨op, answer⟩, step, requested⟩ := List.mem_filterMap.1 member
  have silent := unprobed _ step
  cases op with
  | send lease request =>
    simp only [Exchange.request?, Option.some.injEq] at requested
    subst requested
    cases request <;> simp [Op.isProbe] at silent ⊢
  | _ => simp [Exchange.request?] at requested

end Trace

namespace Program

variable {state last : ClientState} {steps : Trace} {ref : PoolRef} {pool : Pool} {ticket : Ticket}
  {endpoint : Endpoint}

/-- Who asks a free pool of a node that can be reached gets a connection. -/
theorem acquire_alone {result : Except ClientError Lease}
    (found : state.topology.pool? ref.id = some pool) (free : pool.Free endpoint)
    (run : Alone (acquire ref) state steps result last)
    (reachable : ∀ exchange ∈ steps, exchange.failure? = none) :
    ∃ ticket held, result = .ok (.pooled ref ticket) ∧ last = state.withPool ref.id held ∧
      held.Attending endpoint ticket .connected := by
  -- The pool is free, so it lets the caller in at once.
  obtain ⟨entered, attending⟩ := free.enter
  obtain ⟨_, rest, rfl, entering⟩ := alone_ask_iff.1 run
  simp only [ClientState.perform, ClientState.onPool_eq found, entered, bind_done] at entering
  -- From here on the pool is one that has just let the caller in.
  have present := ClientState.pool?_withPool found pool.enter.2
  obtain ⟨_, rest, rfl, waiting⟩ := alone_ask_iff.1 entering
  -- The permit is there, since nobody else is in the pool.
  simp only [ClientState.perform, ClientState.onPool_eq present, attending.awaitPermit,
    ClientState.withPool_withPool] at waiting
  obtain ⟨_, rest, rfl, taking⟩ := alone_ask_iff.1 waiting
  simp only [ClientState.perform, ClientState.onPool_eq present,
    ClientState.withPool_withPool] at taking
  -- An idle connection is handed out, or one is opened.
  rcases attending.takeIdle with ⟨reused, equipped⟩ | ⟨lacking, opening⟩
  · rw [reused] at taking
    obtain ⟨rfl, rfl, rfl⟩ := amid_done_iff.1 taking
    exact ⟨_, _, rfl, rfl, equipped⟩
  · rw [lacking] at taking
    have present := ClientState.pool?_withPool found (pool.enter.2.takeIdle pool.nextTicket).2
    obtain ⟨outcome, rest, rfl, connecting⟩ := alone_ask_iff.1 taking
    cases outcome with
    | error failure =>
      -- A node that can be reached does not refuse.
      have reached := reachable ⟨.connect ref pool.nextTicket, .error failure⟩ 
        (by simp [ClientState.perform])
      simp [Exchange.failure?] at reached
    | ok opened =>
      simp only [ClientState.perform, ClientState.changePool_eq present,
        ClientState.withPool_withPool] at connecting
      obtain ⟨rfl, rfl, rfl⟩ := amid_done_iff.1 connecting
      exact ⟨_, _, rfl, rfl, opening.opened⟩

/-- A request leaves the connection with its caller. -/
theorem request_alone {request : Request} {answer : Except ClientError Frame}
    (found : state.topology.pool? ref.id = some pool)
    (attending : pool.Attending endpoint ticket .connected)
    (run : Alone (Program.request (.pooled ref ticket) request) state steps answer last) :
    ∃ held, last = state.withPool ref.id held ∧ held.Attending endpoint ticket .connected := by
  -- Sending marks the connection broken, and the answer decides what becomes of the mark.
  obtain ⟨_, rest, rfl, sending⟩ := alone_ask_iff.1 run
  simp only [ClientState.perform, ClientState.mark, ClientState.changePool_eq found] at sending
  have present := ClientState.pool?_withPool found (pool.mark ticket true)
  obtain ⟨outcome, rest, rfl, answering⟩ := alone_ask_iff.1 sending
  simp only [ClientState.perform, ClientState.mark, ClientState.changePool_eq present,
    ClientState.withPool_withPool] at answering
  obtain ⟨rfl, rfl, rfl⟩ := amid_done_iff.1 answering
  exact ⟨_, rfl, (attending.mark true).mark _⟩

/-- A connection that is given back makes its pool free again. -/
theorem release_alone {given : Unit} (found : state.topology.pool? ref.id = some pool)
    (attending : pool.Attending endpoint ticket .connected)
    (run : Alone (release (.pooled ref ticket)) state steps given last) :
    ∃ left, last = state.withPool ref.id left ∧ left.Free endpoint := by
  -- The place of the caller becomes free, whatever has become of the connection.
  obtain ⟨_, rest, rfl, leaving⟩ := alone_ask_iff.1 run
  simp only [ClientState.perform, ClientState.changePool_eq found] at leaving
  obtain ⟨rfl, rfl, rfl⟩ := amid_done_iff.1 leaving
  exact ⟨_, rfl, attending.leave⟩

end Program

namespace Dispatcher

open Program

variable {state last : ClientState} {steps : Trace} {ref : PoolRef} {pool : Pool} {ticket : Ticket}
  {endpoint : Endpoint} {frame : Frame} {asking : Bool} {outcome : Except ClientError Signal}

/-- A willing node gets the command and answers it. -/
theorem converse_alone (found : state.topology.pool? ref.id = some pool)
    (attending : pool.Attending endpoint ticket .connected)
    (run : Alone (converse (.pooled ref ticket) frame asking) state steps outcome last)
    (willing : ∀ exchange ∈ steps, exchange.Willing) :
    ∃ held answer, last = state.withPool ref.id held ∧
      held.Attending endpoint ticket .connected ∧
      steps.commands = [(.pooled ref ticket, frame)] ∧
      steps.replies = [(.pooled ref ticket, answer)] ∧
      outcome = Redirect.classify answer ref.endpoint := by
  cases asking with
  | false =>
    -- Without the prefix the conversation is one request.
    obtain ⟨answer, requested, rfl, rfl⟩ := exists_answer run
    obtain ⟨held, rfl, attending⟩ := request_alone found attending requested
    exact ⟨held, answer, rfl, attending, rfl, rfl, rfl⟩
  | true =>
    obtain ⟨first, second, acknowledged, middle, rfl, requested, following⟩ := amid_bind_iff.1 run
    obtain ⟨held, rfl, attending⟩ := request_alone found attending requested
    have asked := steps_of_request requested
    subst asked
    -- A willing node acknowledges `ASKING` with a normal reply.
    obtain ⟨answered, acknowledges⟩ :=
      willing ⟨.answer (.pooled ref ticket) .asking, acknowledged⟩ (by simp)
    cases acknowledged with
    | error failure => simp [Exchange.failure?] at answered
    | ok acknowledgement =>
      have normal := acknowledges acknowledgement rfl
      -- The command follows, on the connection that has stayed with the caller.
      simp only [Redirect.classify_of_normal normal] at following
      have present := ClientState.pool?_withPool found held
      obtain ⟨answer, requested, rfl, rfl⟩ := exists_answer following
      obtain ⟨again, rfl, attending⟩ := request_alone present attending requested
      exact ⟨again, answer, ClientState.withPool_withPool _ _ _ _, attending, rfl, rfl, rfl⟩

/-- An attempt asks no questions of the client's own. -/
theorem attempt_unprobed (ref : PoolRef) (frame : Frame) (asking : Bool) :
    (attempt ref frame asking).Within fun op => op.isProbe = false :=
  -- None of the four parts of an attempt is a question of the client's own.
  attempt_within ref ((acquire_idle ref).mono Op.isProbe_of_idle)
    (fun _ _ => ⟨rfl, fun _ => ⟨rfl, fun _ => trivial⟩⟩)
    (fun _ => ⟨rfl, fun _ => ⟨rfl, fun _ => trivial⟩⟩)
    fun lease => (release_idle lease).mono Op.isProbe_of_idle

/-- An attempt at a free pool of a willing node sends the command once, comes to what the answer
means, and leaves the pool free. -/
theorem attempt_alone (found : state.topology.pool? ref.id = some pool)
    (free : pool.Free endpoint)
    (run : Alone (attempt ref frame asking) state steps outcome last)
    (willing : ∀ exchange ∈ steps, exchange.Willing) :
    ∃ left lease answer, last = state.withPool ref.id left ∧ left.Free endpoint ∧
      lease.endpoint = ref.endpoint ∧ steps.commands = [(lease, frame)] ∧
      steps.replies = [(lease, answer)] ∧
      outcome = Redirect.classify answer ref.endpoint := by
  -- Acquiring, conversing and releasing are taken in turn, with the pool in its place each time.
  obtain ⟨acquiring, following, acquired, middle, rfl, acquire, rest⟩ := amid_bind_iff.1 run
  have quiet := acquire.quiet (acquire_quiet ref)
  obtain ⟨ticket, held, rfl, rfl, attending⟩ := acquire_alone found free acquire
    fun exchange member => (willing exchange (by simp [member])).1
  obtain ⟨conversing, ending, came, halfway, rfl, conversation, rest⟩ := amid_bind_iff.1 rest
  have present := ClientState.pool?_withPool found held
  obtain ⟨used, answer, rfl, attending, sent, replied, rfl⟩ :=
    converse_alone present attending conversation
      fun exchange member => willing exchange (by simp [member])
  -- The connection goes back before the outcome is looked at.
  obtain ⟨releasing, nothing, given, _, rfl, release, finished⟩ := amid_bind_iff.1 rest
  obtain ⟨rfl, rfl, rfl⟩ := amid_done_iff.1 finished
  have silent := release.quiet (release_quiet _)
  simp only [ClientState.withPool_withPool] at release
  have present := ClientState.pool?_withPool found used
  obtain ⟨left, rfl, free⟩ := release_alone present attending release
  refine ⟨left, .pooled ref ticket, answer, ClientState.withPool_withPool _ _ _ _, free, rfl, ?_, ?_,
    rfl⟩
  -- Neither acquiring nor releasing adds a command or a reply.
  · simp [quiet.commands, sent, silent.commands]
  · simp [quiet.replies, replied, silent.replies]

end Dispatcher

end RedisCluster
