import RedisCluster.Proofs.Client.Jobs
import RedisCluster.Proofs.Dispatcher.Attempts
import RedisCluster.Proofs.Dispatcher.Errands
import RedisCluster.Proofs.Network.Exchange

/-! What a caller makes of a connection: it sends one request at a time and waits for the answer, and
once a request has failed it sends nothing more. -/

namespace RedisCluster

/-- What a caller has made of the connection that it has. -/
inductive Grip where
  | fit
  | asked (request : Request)
  | spent

/-- A step makes of a connection what it does; in a pool every caller starts afresh. -/
def Exchange.grip (exchange : Exchange) (before : Grip) : Grip :=
  match exchange with
  -- Whoever comes into a pool has nothing of its earlier connections.
  | ⟨.enter _, _⟩ => .fit
  | ⟨.send (.pooled _ _) request, _⟩ => .asked request
  -- A reply leaves the connection as it was before the request.
  | ⟨.answer (.pooled _ _) _, .ok _⟩ => .fit
  -- An error leaves it for nobody to use again, until it is given back.
  | ⟨.answer (.pooled _ _) _, .error _⟩ => .spent
  | _ => before

/-- What the steps of a caller have made of the connection that it has. -/
def Trace.grip (trace : Trace) : Grip :=
  trace.foldl (fun grip exchange => exchange.grip grip) .fit

@[simp] theorem Trace.grip_nil : grip [] = .fit := rfl

@[simp] theorem Trace.grip_concat (past : Trace) (exchange : Exchange) :
    grip (past ++ [exchange]) = exchange.grip past.grip := by
  -- The grip is folded from the left, so the last step counts last.
  simp [grip]

/-- A step that concerns no place in a pool makes nothing of a connection. -/
theorem Exchange.grip_of_elsewhere {op : Op} (outside : op.isElsewhere = true) (answer : op.Answer)
    (before : Grip) : Exchange.grip ⟨op, answer⟩ before = before := by
  -- A request past all pools has no pooled connection, and nothing else sends or answers.
  cases op with
  | send lease request => cases lease <;> first | rfl | simp [Op.isElsewhere] at outside
  | answer lease request => cases lease <;> first | rfl | simp [Op.isElsewhere] at outside
  | _ => first | rfl | simp [Op.isElsewhere] at outside

/-- A request that does not fit in a buffer cannot be sent; those of the client itself are short. -/
theorem Request.sendable_of_own {request : Request} (own : ∀ frame, request ≠ .command frame) :
    request.frame.Sendable := by
  cases request with
  | command frame => exact absurd rfl (own frame)
  -- The client's own requests are built from plain arguments and are a few bytes long.
  | asking => exact ⟨Command.toFrame_unbroken _, by decide⟩
  | ping => exact ⟨Command.toFrame_unbroken _, by decide⟩
  | layout => exact ⟨Command.toFrame_unbroken _, by decide⟩

namespace Client

/-- When a request may be sent and its answer awaited; nothing is granted. -/
def manners : Rules where
  allowed past
    -- A request is sent over a connection that is free.
    | .send (.pooled _ _) request => past.grip = .fit ∧ request.frame.Sendable
    -- Only the answer to what was asked last is awaited.
    | .answer (.pooled _ _) request => past.grip = .asked request
    | _ => True
  granted _ _ := True

/-- A program that keeps to the manners, however it ends. -/
abbrev Polite {α : Type} (program : Program α) (past : Trace) : Prop :=
  program.Conducts manners (fun _ _ => True) past

variable {past : Trace}

/-- A step that concerns no place in a pool is polite. -/
theorem polite_ask {α : Type} {op : Op} {next : op.Answer → Program α}
    (outside : op.isElsewhere = true)
    (rest : ∀ answer, Polite (next answer) (past ++ [⟨op, answer⟩])) :
    Polite (.ask op next) past := by
  refine ⟨?_, fun answer _ => rest answer⟩
  -- Only requests over pooled connections ask for a grip, and those are not elsewhere.
  cases op with
  | send lease request =>
    cases lease with
    | pooled pool ticket => simp [Op.isElsewhere] at outside
    | direct node number => trivial
  | answer lease request =>
    cases lease with
    | pooled pool ticket => simp [Op.isElsewhere] at outside
    | direct node number => trivial
  | _ => trivial

/-- Who checks a connection out has made nothing of it yet. -/
theorem acquire_polite (pool : PoolRef) :
    (Program.acquire pool).Conducts manners (fun now _ => now.grip = .fit) past := by
  -- Coming in is a new start, and no step on the way to the connection uses it.
  refine ⟨trivial, fun entered _ => ?_⟩
  have fresh := Trace.grip_concat past ⟨.enter pool, entered⟩
  cases entered with
  | error error => exact fresh
  | ok ticket =>
    refine ⟨trivial, fun permit _ => ?_⟩
    have waited := (Trace.grip_concat _ ⟨.awaitPermit pool ticket, permit⟩).trans fresh
    cases permit with
    | error error => exact waited
    | ok granted =>
      refine ⟨trivial, fun reused _ => ?_⟩
      have taken := (Trace.grip_concat _ ⟨.takeIdle pool ticket, reused⟩).trans waited
      cases reused with
      | true => exact taken
      | false =>
        refine ⟨trivial, fun connected _ => ?_⟩
        have opened := (Trace.grip_concat _ ⟨.connect pool ticket, connected⟩).trans taken
        cases connected with
        | error error => exact opened
        | ok done => exact opened

/-- A request may follow one that was answered. -/
theorem request_polite (lease : Lease) {request : Request} (fit : past.grip = .fit)
    (sendable : request.frame.Sendable) :
    (Program.request lease request).Conducts manners (fun now answer =>
      ∀ reply, answer = .ok reply → now.grip = .fit) past := by
  cases lease with
  -- The request takes hold of the connection, and its reply lets go of it.
  | pooled pool ticket =>
    refine ⟨⟨fit, sendable⟩, fun sent _ => ⟨Trace.grip_concat _ _, fun answer _ => ?_⟩⟩
    intro reply replied
    subst replied
    exact Trace.grip_concat _ _
  | direct node number =>
    -- A direct connection is no pooled one, so the grip stays what it was.
    refine ⟨trivial, fun sent _ => ⟨trivial, fun answer _ => ?_⟩⟩
    intro reply _
    have still := (Trace.grip_concat past ⟨.send (.direct node number) request, sent⟩).trans fit
    exact (Trace.grip_concat _ ⟨.answer (.direct node number) request, answer⟩).trans still

/-- Giving a connection back is polite at any time. -/
theorem release_polite (lease : Lease) : Polite (Program.release lease) past := by
  cases lease with
  -- To leave a pool asks for nothing.
  | pooled pool ticket => exact ⟨trivial, fun _ _ => trivial⟩
  | direct node number => trivial

/-- Whoever goes on an errand is polite, whatever was before. -/
theorem errand_polite {α : Type} {program : Program α} (errand : program.Errand) (past : Trace) :
    Polite program past := by
  -- Along the errand, each inquiry is a connection taken, used once and given back.
  induction errand generalizing past with
  | done value => trivial
  -- Steps elsewhere say nothing of connections.
  | ask outside silent rest ih => exact polite_ask outside fun answer => ih answer _
  | inquire pool own refused judged ihRefused ihJudged =>
    refine (acquire_polite pool).bind fun now acquired fit => ?_
    cases acquired with
    | error error => exact ihRefused error now
    | ok lease =>
      -- The client asks for itself, so its request can be sent.
      exact (request_polite lease fit (Request.sendable_of_own own)).bind fun later reply _ =>
        (release_polite lease).bind fun last _ _ => ihJudged reply last

/-- A command is sent after `ASKING` only if that was answered. -/
theorem converse_polite (lease : Lease) {frame : Frame} (asking : Bool) (fit : past.grip = .fit)
    (sendable : frame.Sendable) : Polite (Dispatcher.converse lease frame asking) past := by
  -- The command without `ASKING` only needs a connection that is free.
  have plain : ∀ {past : Trace}, past.grip = .fit →
      Polite (Program.bind (Program.request lease (.command frame)) fun reply =>
        .done (Redirect.classify reply lease.endpoint)) past := fun fit =>
    (@request_polite _ lease (.command frame) fit sendable).bind fun _ _ _ => trivial
  cases asking with
  | false => exact plain fit
  -- `ASKING` is one of the client's own requests.
  | true =>
    refine (request_polite lease fit (Request.sendable_of_own fun _ => Request.noConfusion)).bind
      fun now acknowledged answered => ?_
    split
    · -- Only a reply can be taken for an acknowledgement.
      rename_i reply accepted
      exact plain (answered _ (Redirect.classify_reply accepted).1)
    -- Otherwise nothing more is sent over that connection.
    · trivial

/-- An attempt is polite, whatever was before. -/
theorem attempt_polite (pool : PoolRef) {frame : Frame} (asking : Bool) (sendable : frame.Sendable)
    (past : Trace) : Polite (Dispatcher.attempt pool frame asking) past := by
  refine (acquire_polite pool).bind fun now acquired fit => ?_
  cases acquired with
  -- Without a connection nothing is sent.
  | error error => trivial
  | ok lease =>
    -- However the conversation ended, the connection is given back.
    exact (converse_polite lease asking fit sendable).bind fun _ _ _ =>
      (release_polite lease).bind fun _ _ _ => trivial

/-- A command is polite, whatever was before. -/
theorem dispatch_polite (dispatcher : Dispatcher) {command : Command}
    (sendable : command.toFrame.Sendable) : ∀ past, Polite (dispatcher.execute command) past := by
  -- The pieces of a command are handled one by one: the way to a node and the rediscovery are
  -- errands.
  refine Dispatcher.execute_induction (fun _ program => ∀ past, Polite program past)
    (fun _ _ => trivial) (fun first rest past => (first past).bind fun now value _ => rest value now)
    (fun _ => polite_ask rfl fun _ => trivial)
    (fun slot route => errand_polite (dispatcher.choose_errand slot route))
    (fun pool asking => attempt_polite pool asking sendable) ?_
    fun preferred => errand_polite (Discovery.rediscover_errand _ preferred)
  exact fun slots node past => polite_ask rfl fun _ => trivial

end Client

namespace Job

/-- The command of a job, if it has one, fits in a buffer. -/
def Sendable : Job → Prop
  | execute command | dispatch command => command.toFrame.encode.length < vast
  | _ => True

/-- Every job is polite. -/
theorem program_polite (client : Client) {job : Job} (sendable : job.Sendable) :
    Client.Polite (job.program client) [] := by
  refine conducts_of_parts client (fun _ => trivial) (fun _ => trivial) (fun command runs past => ?_)
    -- The rules of the parts carry over to the job, whichever it is.
    (fun preferred _ past => Client.errand_polite (Discovery.rediscover_errand _ preferred) past) []
  -- The job says of its command that it fits, and there is no other command in it.
  have addressable : command.toFrame.encode.length < vast := by
    cases job <;> cases runs <;> exact sendable
  exact Client.dispatch_polite _ ⟨Command.toFrame_unbroken _, addressable⟩ past

end Job

end RedisCluster
