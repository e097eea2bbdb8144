import RedisCluster.ClientState

/-! What can be seen of a program as it runs: the steps that it takes and the answers that it gets. -/

namespace RedisCluster

/-- Surroundings in which nodes can be reached or not and answer requests on their own; pools are
visited in the order in which they are known. -/
def Op.surroundings (reach : Endpoint → Except ClientError Unit)
    (reply : Lease → Request → Except ClientError Frame) : (op : Op) → op.Choice
  | .connect pool _ => reach pool.endpoint
  | .dial node => reach node
  | .answer lease request => reply lease request
  | .knownPools => []
  | .isClosed | .owner _ | .lookup _ | .register _ | .assign _ _ | .rebuild _ | .reset | .close
  | .nodeCount | .isRediscovering | .beginRediscovery | .endRediscovery | .enter _
  | .awaitPermit _ _ | .takeIdle _ _ | .leave _ _ | .closePool _ | .send _ _ => ()

/-- A step that sends or answers a request. -/
def Op.isTraffic : Op → Bool
  | .send _ _ | .answer _ _ => true
  | _ => false

/-- A step that sends or answers a caller's command. -/
def Op.carriesCommand : Op → Bool
  | .send _ (.command _) | .answer _ (.command _) => true
  | _ => false

/-- A step that was taken, with the answer to it. -/
structure Exchange where
  op : Op
  answer : op.Answer

/-- The steps of a program in their order. -/
abbrev Trace := List Exchange

namespace Exchange

/-- The request that a step sent, with the connection that it went over. -/
def request? : Exchange → Option (Lease × Request)
  | ⟨.send lease request, _⟩ => some (lease, request)
  | _ => none

/-- The command that a step sent, with the connection that it went over. -/
def command? : Exchange → Option (Lease × Frame)
  | ⟨.send lease (.command frame), _⟩ => some (lease, frame)
  | _ => none

/-- The answer to a command, with the connection that it came over. -/
def reply? : Exchange → Option (Lease × Except ClientError Frame)
  | ⟨.answer lease (.command _), answer⟩ => some (lease, answer)
  | _ => none

/-- The error with which a node failed to connect or to answer. -/
def failure? : Exchange → Option ClientError
  | ⟨.connect _ _, .error error⟩ => some error
  | ⟨.answer _ _, .error error⟩ => some error
  | ⟨.dial _, .error error⟩ => some error
  | _ => none

end Exchange

namespace Trace

/-- Everything that was sent, in order. -/
def requests (trace : Trace) : List (Lease × Request) :=
  trace.filterMap Exchange.request?

/-- The commands that were sent, in order. -/
def commands (trace : Trace) : List (Lease × Frame) :=
  trace.filterMap Exchange.command?

/-- The answers that commands got, in order. -/
def replies (trace : Trace) : List (Lease × Except ClientError Frame) :=
  trace.filterMap Exchange.reply?

@[simp] theorem commands_nil : commands [] = [] := rfl

@[simp] theorem commands_cons (exchange : Exchange) (trace : Trace) :
    commands (exchange :: trace) = exchange.command?.toList ++ commands trace := by
  -- A step contributes one command or none.
  cases sent : exchange.command? <;> simp [commands, sent]

@[simp] theorem commands_append (front back : Trace) :
    commands (front ++ back) = commands front ++ commands back :=
  List.filterMap_append

@[simp] theorem replies_nil : replies [] = [] := rfl

@[simp] theorem replies_cons (exchange : Exchange) (trace : Trace) :
    replies (exchange :: trace) = exchange.reply?.toList ++ replies trace := by
  -- A step contributes one answer or none.
  cases answered : exchange.reply? <;> simp [replies, answered]

@[simp] theorem replies_append (front back : Trace) :
    replies (front ++ back) = replies front ++ replies back :=
  List.filterMap_append

/-- No step carries a command of a caller. -/
def Quiet (trace : Trace) : Prop :=
  ∀ exchange ∈ trace, exchange.op.carriesCommand = false

/-- Where nothing happens it is quiet. -/
theorem Quiet.nil : Quiet [] :=
  fun _ member => nomatch member

/-- A step that carries no command is quiet on its own. -/
theorem Quiet.single {exchange : Exchange} (silent : exchange.op.carriesCommand = false) :
    Quiet [exchange] :=
  fun _ member => List.mem_singleton.1 member ▸ silent

/-- A quiet trace shows no commands. -/
theorem Quiet.commands {trace : Trace} (quiet : trace.Quiet) : trace.commands = [] := by
  refine List.filterMap_eq_nil_iff.2 fun exchange member => ?_
  have silent := quiet exchange member
  rcases exchange with ⟨op, answer⟩
  -- Only sending could show a command, and what is sent here is something else.
  cases op with
  | send lease request => cases request <;> first | rfl | simp [Op.carriesCommand] at silent
  | _ => rfl

/-- A quiet trace shows no answers to commands. -/
theorem Quiet.replies {trace : Trace} (quiet : trace.Quiet) : trace.replies = [] := by
  refine List.filterMap_eq_nil_iff.2 fun exchange member => ?_
  have silent := quiet exchange member
  -- What could answer a command is an answer, and the ones given here answer something else.
  rcases exchange with ⟨op, answer⟩
  cases op with
  | answer lease request => cases request <;> first | rfl | simp [Op.carriesCommand] at silent
  | _ => rfl

end Trace

namespace Program

variable {α β : Type} {others : ClientState → ClientState → Prop}

/-- A program comes to a value by way of a trace, while others may change the shared state before
each of its steps. -/
inductive Amid (others : ClientState → ClientState → Prop) :
    Program α → ClientState → Trace → α → ClientState → Prop where
  | done (value : α) (state : ClientState) : Amid others (done value) state [] value state
  | ask {op : Op} {next : op.Answer → Program α} {state before last : ClientState} {rest : Trace}
      {value : α} (meanwhile : others state before) (choice : op.Choice)
      (after : Amid others (next (before.perform op choice).1) (before.perform op choice).2
        rest value last) :
      Amid others (ask op next) state (⟨op, (before.perform op choice).1⟩ :: rest) value last

/-- A program comes to a value by way of a trace while no other program runs. -/
abbrev Alone : Program α → ClientState → Trace → α → ClientState → Prop :=
  Amid Eq

/-- A finished program takes no more steps. -/
theorem amid_done_iff {value result : α} {state last : ClientState} {trace : Trace} :
    Amid others (done value) state trace result last ↔
      trace = [] ∧ result = value ∧ last = state := by
  constructor
  -- Each way a run can begin says what it did.
  · rintro ⟨⟩
    exact ⟨rfl, rfl, rfl⟩
  · rintro ⟨rfl, rfl, rfl⟩
    exact .done _ _

/-- A program that asks for a step goes on from the state that the step leaves behind. -/
theorem amid_ask_iff {op : Op} {next : op.Answer → Program α} {state last : ClientState}
    {trace : Trace} {result : α} :
    Amid others (ask op next) state trace result last ↔
      ∃ before choice rest, others state before ∧
        trace = ⟨op, (before.perform op choice).1⟩ :: rest ∧
        Amid others (next (before.perform op choice).1) (before.perform op choice).2
          rest result last := by
  constructor
  -- A program with a step to take begins with it, after whatever the others do.
  · rintro (_ | ⟨meanwhile, choice, after⟩)
    exact ⟨_, choice, _, meanwhile, rfl, after⟩
  · rintro ⟨before, choice, rest, meanwhile, rfl, after⟩
    exact .ask meanwhile choice after

/-- A program that runs alone takes each step in the state that the last one left behind. -/
theorem alone_ask_iff {op : Op} {next : op.Answer → Program α} {state last : ClientState}
    {trace : Trace} {result : α} :
    Alone (ask op next) state trace result last ↔
      ∃ choice rest, trace = ⟨op, (state.perform op choice).1⟩ :: rest ∧
        Alone (next (state.perform op choice).1) (state.perform op choice).2 rest result last := by
  constructor
  -- Nobody else changes the state, so the step is taken in it as it is.
  · rintro (_ | ⟨rfl, choice, after⟩)
    exact ⟨choice, _, rfl, after⟩
  · rintro ⟨choice, rest, rfl, after⟩
    exact .ask rfl choice after

/-- Programs that run in a row run one after the other. -/
theorem amid_bind_iff {program : Program α} {follow : α → Program β} {state last : ClientState}
    {trace : Trace} {result : β} :
    Amid others (bind program follow) state trace result last ↔
      ∃ first second value middle, trace = first ++ second ∧
        Amid others program state first value middle ∧
        Amid others (follow value) middle second result last := by
  induction program generalizing state trace with
  | done value =>
    constructor
    · intro amid
      exact ⟨[], trace, value, state, rfl, .done value state, amid⟩
    · rintro ⟨first, second, other, middle, rfl, begun, ended⟩
      -- A finished program contributes no steps.
      obtain ⟨rfl, rfl, rfl⟩ := amid_done_iff.1 begun
      exact ended
  | ask op next ih =>
    constructor
    · rintro (_ | ⟨meanwhile, choice, after⟩)
      -- The first step belongs to the first program, and what follows is cut as before.
      obtain ⟨first, second, value, middle, rfl, begun, ended⟩ := (ih _).1 after
      exact ⟨_ :: first, second, value, middle, rfl, .ask meanwhile choice begun, ended⟩
    · rintro ⟨first, second, value, middle, rfl, (_ | ⟨meanwhile, choice, begun⟩), ended⟩
      -- Both parts are put together again behind the first step.
      exact .ask meanwhile choice ((ih _).2 ⟨_, second, value, middle, rfl, begun, ended⟩)

/-- Takes a step in some surroundings and writes it down. -/
def record (surroundings : (op : Op) → op.Choice) (op : Op) (session : ClientState × Trace) :
    op.Answer × ClientState × Trace :=
  let (answer, after) := session.1.perform op (surroundings op)
  (answer, after, session.2 ++ [⟨op, answer⟩])

/-- Runs a program alone and writes its steps down. -/
def play (surroundings : (op : Op) → op.Choice) (program : Program α) (state : ClientState) :
    α × ClientState × Trace :=
  run (record surroundings) program (state, [])

/-- What was written down of a program is the trace of a run. -/
theorem alone_play (surroundings : (op : Op) → op.Choice) (program : Program α)
    (state : ClientState) :
    Alone program state (play surroundings program state).2.2 (play surroundings program state).1
      (play surroundings program state).2.1 := by
  -- Earlier steps may stand in the record already.
  have general : ∀ (program : Program α) (state : ClientState) (past : Trace), ∃ trace,
      (run (record surroundings) program (state, past)).2.2 = past ++ trace ∧
        Alone program state trace (run (record surroundings) program (state, past)).1
          (run (record surroundings) program (state, past)).2.1 := by
    intro program
    induction program with
    | done value => exact fun state past => ⟨[], (List.append_nil past).symm, .done value state⟩
    | ask op next ih =>
      -- This step is written down behind those that stand there, and before those that follow.
      intro state past
      obtain ⟨trace, written, after⟩ := ih (state.perform op (surroundings op)).1
        (state.perform op (surroundings op)).2
        (past ++ [⟨op, (state.perform op (surroundings op)).1⟩])
      rw [List.append_assoc] at written
      exact ⟨⟨op, (state.perform op (surroundings op)).1⟩ :: trace, written,
        .ask rfl (surroundings op) after⟩
  obtain ⟨trace, written, alone⟩ := general program state []
  have same : (play surroundings program state).2.2 = trace := written
  rw [same]
  exact alone

/-- Every step of a program is an allowed one. -/
def Within (allowed : Op → Prop) : Program α → Prop
  | done _ => True
  | ask op next => allowed op ∧ ∀ answer, Within allowed (next answer)

/-- Programs in a row keep to the steps that each of them keeps to. -/
theorem Within.bind {allowed : Op → Prop} {program : Program α} {follow : α → Program β}
    (first : Within allowed program) (second : ∀ value, Within allowed (follow value)) :
    Within allowed (bind program follow) := by
  -- The first program is followed step by step, until the second one takes over.
  induction program with
  | done value => exact second value
  | ask op next ih => exact ⟨first.1, fun answer => ih answer (first.2 answer)⟩

/-- What is allowed for a reason is allowed. -/
theorem Within.mono {allowed more : Op → Prop} {program : Program α}
    (within : Within allowed program) (reason : ∀ op, allowed op → more op) :
    Within more program := by
  induction program with
  | done value => trivial
  -- The reason holds at this step and at all steps behind it.
  | ask op next ih => exact ⟨reason op within.1, fun answer => ih answer (within.2 answer)⟩

/-- A run takes allowed steps only. -/
theorem Amid.within {allowed : Op → Prop} {program : Program α} {state last : ClientState}
    {trace : Trace} {value : α} (run : Amid others program state trace value last)
    (within : Within allowed program) : ∀ exchange ∈ trace, allowed exchange.op := by
  induction run with
  | done value state => simp
  | ask meanwhile choice after ih =>
    -- A step of the run is the first one or belongs to the rest.
    intro exchange member
    rcases List.mem_cons.1 member with rfl | later
    · exact within.1
    · exact ih (within.2 _) exchange later

/-- Whatever the shared state and the surroundings, a program ends with a value as required. -/
def Yields (required : α → Prop) : Program α → Prop
  | done value => required value
  | ask op next => ∀ (state : ClientState) (choice : op.Choice),
      Yields required (next (state.perform op choice).1)

/-- Programs in a row end as required if each starts from what the last one ended with. -/
theorem Yields.bind {middle : α → Prop} {required : β → Prop} {program : Program α}
    {follow : α → Program β} (first : program.Yields middle)
    (second : ∀ value, middle value → (follow value).Yields required) :
    (Program.bind program follow).Yields required := by
  -- Every answer leads on in the first program, and its value begins the second.
  induction program with
  | done value => exact second value first
  | ask op next ih => exact fun state choice => ih _ (first state choice)

/-- What a program ends with on every run, it ends with on this one. -/
theorem Amid.yields {required : α → Prop} {program : Program α} {state last : ClientState}
    {trace : Trace} {value : α} (run : Amid others program state trace value last)
    (yields : program.Yields required) : required value := by
  -- Each step of the run is one of the steps that the program was asked about.
  induction run with
  | done value state => exact yields
  | ask meanwhile choice after ih => exact ih (yields _ choice)

/-- A program that may end in any way does. -/
theorem yields_trivial (program : Program α) : program.Yields fun _ => True := by
  induction program with
  | done value => trivial
  | ask op next ih => exact fun state choice => ih _

end Program

end RedisCluster
