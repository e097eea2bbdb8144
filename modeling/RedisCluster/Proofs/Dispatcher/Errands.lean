import RedisCluster.Dispatcher
import RedisCluster.Proofs.Pool.Callers

/-! The client's own business around a command: finding pools, probing nodes and loading layouts. None
of it carries a command, and none of it leaves a place in a pool behind. -/

namespace RedisCluster

namespace Program

variable {α β : Type}

/-- Asks a node one question over a connection of its pool. -/
def inquire (pool : PoolRef) (request : Request) (refuse : ClientError → Program α)
    (judge : Except ClientError Frame → Program α) : Program α :=
  bind (acquire pool) fun
    | .error error => refuse error
    | .ok lease =>
      bind (Program.request lease request) fun reply =>
        bind (release lease) fun _ => judge reply

/-- A program that asks nodes the client's own questions only, each over a connection of its own. -/
inductive Errand : Program α → Prop where
  | done (value : α) : Errand (done value)
  -- A step outside of all pools may come anywhere, if it carries no command.
  | ask {op : Op} {next : op.Answer → Program α} (outside : op.isElsewhere = true)
      (silent : op.carriesCommand = false) (rest : ∀ answer, Errand (next answer)) :
      Errand (ask op next)
  -- A node is asked as a whole: the connection is got, used and given back.
  | inquire (pool : PoolRef) {request : Request} (own : ∀ frame, request ≠ .command frame)
      {refuse : ClientError → Program α} {judge : Except ClientError Frame → Program α}
      (refused : ∀ error, Errand (refuse error)) (judged : ∀ reply, Errand (judge reply)) :
      Errand (inquire pool request refuse judge)

/-- What follows an inquiry follows each way in which it can end. -/
theorem bind_inquire (pool : PoolRef) (request : Request) (refuse : ClientError → Program α)
    (judge : Except ClientError Frame → Program α) (follow : α → Program β) :
    bind (inquire pool request refuse judge) follow =
      inquire pool request (fun error => bind (refuse error) follow)
        fun reply => bind (judge reply) follow := by
  simp only [inquire, bind_assoc]
  congr 1
  funext acquired
  -- What follows is moved behind either end.
  cases acquired with
  | error error => rfl
  | ok lease => simp only [bind_assoc]

/-- Errands in a row are an errand. -/
theorem Errand.bind {program : Program α} {follow : α → Program β} (first : program.Errand)
    (second : ∀ value, (follow value).Errand) : (bind program follow).Errand := by
  -- An inquiry is one piece, so the induction is on errands and not on programs.
  induction first with
  | done value => exact second value
  | ask outside silent rest ih => exact .ask outside silent ih
  | inquire pool own refused judged ihRefused ihJudged =>
    rw [bind_inquire]
    exact .inquire pool own ihRefused ihJudged

/-- An errand has no place in any pool before and after. -/
theorem Errand.visiting {program : Program α} (errand : program.Errand) : program.Visiting := by
  -- Steps outside of pools are taken from outside and lead there again.
  induction errand with
  | done value => rfl
  | ask outside silent rest ih => exact fun answer => ⟨_, .elsewhere outside, ih answer⟩
  | @inquire pool request own refuse judge refused judged ihRefused ihJudged =>
    -- An inquiry takes one place and gives it up again before it judges the reply.
    refine (acquire_orderly pool).bind fun acquired => ?_
    cases acquired with
    | error error => exact ihRefused error
    | ok lease =>
      exact (request_orderly lease request).bind fun reply =>
        (release_orderly lease).bind fun _ => ihJudged reply

/-- A program that carries no command of a caller. -/
abbrev Quiet (program : Program α) : Prop :=
  program.Within fun op => op.carriesCommand = false

/-- Checking a connection out asks nothing of the node. -/
theorem acquire_idle (pool : PoolRef) : (acquire pool).Within fun op => op.isTraffic = false := by
  -- Four steps at most, and each of them may be the last.
  refine ⟨rfl, fun entered => ?_⟩
  cases entered with
  | error error => trivial
  | ok ticket =>
    refine ⟨rfl, fun permit => ?_⟩
    cases permit with
    | error error => trivial
    | ok granted =>
      refine ⟨rfl, fun reused => ?_⟩
      cases reused with
      | true => trivial
      | false =>
        refine ⟨rfl, fun connected => ?_⟩
        cases connected <;> trivial

/-- Giving a connection back asks nothing of the node. -/
theorem release_idle (lease : Lease) : (release lease).Within fun op => op.isTraffic = false := by
  -- Only a pooled connection is given back by a step.
  cases lease with
  | pooled pool ticket => exact ⟨rfl, fun _ => trivial⟩
  | direct node number => trivial

/-- Where nothing is asked of a node, no command is. -/
theorem quiet_of_idle {program : Program α}
    (idle : program.Within fun op => op.isTraffic = false) : program.Quiet := by
  refine idle.mono fun op silent => ?_
  -- A command is carried by traffic only.
  cases op <;> first | rfl | simp [Op.isTraffic] at silent

/-- Checking a connection out carries no command. -/
theorem acquire_quiet (pool : PoolRef) : (acquire pool).Quiet :=
  quiet_of_idle (acquire_idle pool)

/-- Giving a connection back carries no command. -/
theorem release_quiet (lease : Lease) : (release lease).Quiet :=
  quiet_of_idle (release_idle lease)

/-- A question of the client's own carries no command. -/
theorem request_quiet (lease : Lease) {request : Request}
    (own : ∀ frame, request ≠ .command frame) : (Program.request lease request).Quiet := by
  cases request with
  -- Of the four kinds of request only one is a caller's.
  | command frame => exact absurd rfl (own frame)
  | asking => exact ⟨rfl, fun _ => ⟨rfl, fun _ => trivial⟩⟩
  | ping => exact ⟨rfl, fun _ => ⟨rfl, fun _ => trivial⟩⟩
  | layout => exact ⟨rfl, fun _ => ⟨rfl, fun _ => trivial⟩⟩

/-- An errand carries no command. -/
theorem Errand.quiet {program : Program α} (errand : program.Errand) : program.Quiet := by
  -- What is asked in an inquiry is the client's own, and the rest of it asks nothing.
  induction errand with
  | done value => trivial
  | ask outside silent rest ih => exact ⟨silent, ih⟩
  | inquire pool own refused judged ihRefused ihJudged =>
    refine (acquire_quiet pool).bind fun acquired => ?_
    cases acquired with
    | error error => exact ihRefused error
    | ok lease =>
      exact (request_quiet lease own).bind fun reply =>
        (release_quiet lease).bind fun _ => ihJudged reply

/-- Finding the pool of a node is an errand. -/
theorem getOrCreate_errand (node : Endpoint) : (getOrCreate node).Errand := by
  -- A node that is not known is registered, and neither step is in a pool.
  refine .ask rfl rfl fun known => ?_
  cases known with
  | some pool => exact .done _
  | none => exact .ask rfl rfl fun _ => .done _

end Program

namespace Discovery

/-- Asking one node for the layout is an errand. -/
theorem refreshFrom_errand (translator : Translator) (pool : PoolRef) :
    (refreshFrom translator pool).Errand := by
  -- Either the reply cannot be read, or the layout that it holds is loaded.
  refine .inquire pool (fun _ => Request.noConfusion) (fun error => .done (Except.error error))
    fun reply => ?_
  split
  · exact .done _
  · exact .ask rfl rfl fun _ => .done _

/-- Asking other nodes in turn is an errand. -/
theorem askOthers_errand (translator : Translator) (asked : Option PoolRef) :
    (askOthers translator asked).Errand := by
  have turns : ∀ pools, (firstRefreshed translator pools).Errand := by
    intro pools
    -- The nodes are asked in turn until one of them has its layout loaded.
    induction pools with
    | nil => exact .done none
    | cons pool rest ih =>
      refine (refreshFrom_errand translator pool).bind fun refreshed => ?_
      cases refreshed with
      | error error => exact ih
      | ok loaded => exact .done _
  exact .ask rfl rfl fun known => turns _

/-- A rediscovery is an errand. -/
theorem rediscover_errand (translator : Translator) (preferred : Option PoolRef) :
    (rediscover translator preferred).Errand := by
  -- The preferred node is asked first, if there is one, and then the others.
  have passed : (pass translator preferred).Errand := by
    cases preferred with
    | none => exact askOthers_errand translator none
    | some pool =>
      refine (refreshFrom_errand translator pool).bind fun refreshed => ?_
      cases refreshed with
      | error error => exact askOthers_errand translator (some pool)
      | ok loaded => exact .done _
  refine .ask rfl rfl fun started => ?_
  cases started with
  -- Somebody else is at it already.
  | false => exact .done _
  | true =>
    refine passed.bind fun found => .ask rfl rfl fun _ => ?_
    -- Whatever the pass has found, the flag is taken down.
    cases found <;> exact .done _

end Discovery

namespace Dispatcher

/-- Looking for a node that is alive is an errand. -/
theorem fallback_errand : fallback.Errand := by
  -- The nodes are pinged in turn, until one of them answers.
  have alive : ∀ failure pools, (firstAlive failure pools).Errand := by
    intro failure pools
    induction pools generalizing failure with
    | nil => exact .done _
    | cons pool rest ih =>
      have pinged : (ping pool).Errand := .inquire pool (fun _ => Request.noConfusion)
        (fun error => .done (Except.error error)) fun reply => .done _
      refine pinged.bind fun pong => ?_
      cases pong with
      | error error => exact ih _
      | ok answered => exact .done _
  -- The flag is looked at, the nodes are listed, and then they are pinged.
  refine .ask rfl rfl fun closed => ?_
  cases closed with
  | true => exact .done _
  | false => exact .ask rfl rfl fun known => alive none known

/-- Finding the owner of a slot is an errand. -/
theorem ownerPool_errand (dispatcher : Dispatcher) (slot : Option Nat) :
    (dispatcher.ownerPool slot).Errand := by
  cases slot with
  | none => exact fallback_errand
  | some slot =>
    refine .ask rfl rfl fun owner => ?_
    -- An owner ends the search, and without one it is counted who could be asked.
    cases owner with
    | some pool => exact .done _
    | none =>
      refine .ask rfl rfl fun known => ?_
      simp only [Program.bind_done]
      split
      · exact fallback_errand
      · -- With some node known, the layout is loaded before the slot is looked up again.
        refine (Discovery.rediscover_errand _ none).bind fun _ => .ask rfl rfl fun owner => ?_
        cases owner with
        | some pool => exact .done _
        | none => exact fallback_errand

/-- Finding the pool for an attempt is an errand. -/
theorem choose_errand (dispatcher : Dispatcher) (slot : Option Nat) (route : Route) :
    (dispatcher.choose slot route).Errand := by
  cases route with
  -- What is made of the pool takes no step.
  | owner => exact (ownerPool_errand dispatcher slot).bind fun _ => .done _
  | asking target => exact (Program.getOrCreate_errand target).bind fun _ => .done _

/-- A command, with `ASKING` or without, leaves the connection with the caller. -/
theorem converse_orderly (lease : Lease) (frame : Frame) (asking : Bool) :
    (converse lease frame asking).Orderly (fun _ => Phase.ofLease lease) (Phase.ofLease lease) := by
  -- Without the prefix a command is one request, which leaves its connection with the caller.
  have plain : (Program.bind (Program.request lease (.command frame)) fun reply =>
      .done (Redirect.classify reply lease.endpoint)).Orderly (fun _ => Phase.ofLease lease)
        (Phase.ofLease lease) :=
    (Program.request_orderly lease _).bind fun _ => rfl
  cases asking with
  | false => exact plain
  | true =>
    refine (Program.request_orderly lease .asking).bind fun acknowledged => ?_
    -- Acknowledged or not, the connection is still the caller's.
    split
    · exact plain
    · rfl

/-- An attempt is a visit to one pool. -/
theorem attempt_visiting (pool : PoolRef) (frame : Frame) (asking : Bool) :
    (attempt pool frame asking).Visiting := by
  refine (Program.acquire_orderly pool).bind fun acquired => ?_
  cases acquired with
  | error error => rfl
  | ok lease =>
    -- The connection is given back whatever came over it.
    exact (converse_orderly lease frame asking).bind fun _ =>
      (Program.release_orderly lease).bind fun _ => rfl

/-- An attempt keeps to the steps that its parts keep to, of which `ASKING` is one only if it comes
first. -/
theorem attempt_within {allowed : Op → Prop} (pool : PoolRef) {frame : Frame} {asking : Bool}
    (acquired : (Program.acquire pool).Within allowed)
    (asked : asking = true → ∀ lease, (Program.request lease .asking).Within allowed)
    (sent : ∀ lease, (Program.request lease (.command frame)).Within allowed)
    (released : ∀ lease, (Program.release lease).Within allowed) :
    (attempt pool frame asking).Within allowed := by
  -- What follows `ASKING` is what a command without it consists of.
  have plain : ∀ lease, (Program.bind (Program.request lease (.command frame)) fun reply =>
      .done (Redirect.classify reply lease.endpoint)).Within allowed :=
    fun lease => (sent lease).bind fun _ => trivial
  refine acquired.bind fun acquired => ?_
  cases acquired with
  | error error => trivial
  | ok lease =>
    have conversed : (converse lease frame asking).Within allowed := by
      cases asking with
      | false => exact plain lease
      | true =>
        refine (asked rfl lease).bind fun acknowledged => ?_
        split
        -- Only an acknowledgement is followed by the command.
        · exact plain lease
        · trivial
    exact conversed.bind fun _ => (released lease).bind fun _ => trivial

/-- What programs in a row have if each of them has it, attempts have if each of their parts has
it. -/
theorem run_induction (motive : (α : Type) → Program α → Prop) {dispatcher : Dispatcher}
    {slot : Option Nat} {frame : Frame} (done : ∀ {α : Type} (value : α), motive α (.done value))
    (bind : ∀ {α β : Type} {program : Program α} {follow : α → Program β}, motive α program →
      (∀ value, motive β (follow value)) → motive β (Program.bind program follow))
    (closed : motive Bool Program.isClosed)
    (chosen : ∀ route, motive _ (dispatcher.choose slot route))
    (attempted : ∀ pool asking, motive _ (attempt pool frame asking))
    (assigned : ∀ slots node, motive _ (Program.assign slots node))
    (rediscovered : ∀ preferred, motive _ (Discovery.rediscover dispatcher.translator preferred))
    (remaining : Nat) (progress : Progress) :
    motive _ (dispatcher.run slot frame remaining progress) := by
  -- The attempts come one after the other, and each of them is made of those parts.
  induction remaining generalizing progress with
  | zero => exact done _
  | succ remaining ih =>
    -- The flag is looked at first, and a closed client goes no further.
    refine bind closed fun shut => ?_
    cases shut with
    | true => exact done _
    | false =>
      refine bind (chosen progress.route) fun choice => ?_
      rcases choice with error | ⟨pool, asking⟩
      · exact done _
      · refine bind (attempted pool asking) fun outcome => ?_
        rcases outcome with error | (reply | ⟨moved, target⟩ | ⟨asked, target⟩ | error)
        · exact done _
        · exact done _
        · -- A permanent redirect is written to the table between two attempts.
          refine bind (assigned _ _) fun owner => ?_
          cases owner with
          | error error => exact done _
          | ok pool => exact ih _
        · exact ih _
        · exact bind (rediscovered _) fun _ => ih _

/-- What programs in a row have if each of them has it, a command has if each of its parts has it. -/
theorem execute_induction (motive : (α : Type) → Program α → Prop) {dispatcher : Dispatcher}
    {command : Command} (done : ∀ {α : Type} (value : α), motive α (.done value))
    (bind : ∀ {α β : Type} {program : Program α} {follow : α → Program β}, motive α program →
      (∀ value, motive β (follow value)) → motive β (Program.bind program follow))
    (closed : motive Bool Program.isClosed)
    (chosen : ∀ slot route, motive _ (dispatcher.choose slot route))
    (attempted : ∀ pool asking, motive _ (attempt pool command.toFrame asking))
    (assigned : ∀ slots node, motive _ (Program.assign slots node))
    (rediscovered : ∀ preferred, motive _ (Discovery.rediscover dispatcher.translator preferred)) :
    motive _ (dispatcher.execute command) := by
  unfold execute
  -- A command that cannot be routed takes no step; any other one is its attempts.
  split
  · exact done _
  · exact run_induction motive done bind closed (chosen _) attempted assigned rediscovered _ _

/-- Every command visits pools in order, one at a time, until its attempts are over. -/
theorem execute_visiting (dispatcher : Dispatcher) (command : Command) :
    (dispatcher.execute command).Visiting := by
  -- Each part takes its place in a pool and gives it up again, or never takes one.
  refine execute_induction (fun _ program => program.Visiting) (fun _ => rfl)
    (fun first rest => first.bind rest) (fun _ => ⟨_, .elsewhere rfl, rfl⟩)
    (fun slot route => (choose_errand dispatcher slot route).visiting)
    (fun pool asking => attempt_visiting pool _ asking) ?_
    fun preferred => (Discovery.rediscover_errand _ preferred).visiting
  exact fun slots node _ => ⟨_, .elsewhere rfl, rfl⟩

end Dispatcher

end RedisCluster
