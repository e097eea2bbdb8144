import RedisCluster.Proofs.Dispatcher.Failover

/-! What the programs of a client do for a reason only: they give a slot to a node when they have just
been redirected to it, load a layout that they have just been told, begin and end rediscoveries in
turn, and close the client only if they do nothing before. -/

namespace RedisCluster

namespace Op

/-- A step that a client takes once it is built; it neither starts over, nor closes single pools, nor
opens connections past all pools. -/
def isRoutine : Op → Bool
  | reset | closePool _ | dial _ => false
  | _ => true

/-- The beginning or the end of a rediscovery. -/
def isBoundary : Op → Bool
  | beginRediscovery | endRediscovery => true
  | _ => false

/-- A routine step that needs no reason. -/
def isPlain : Op → Bool
  | assign _ _ | rebuild _ | beginRediscovery | endRediscovery | answer _ _ | close => false
  | op => op.isRoutine

end Op

/-- An answer that came in, with the request and the connection that it came over. -/
def Exchange.answer? : Exchange → Option (Lease × Request × Except ClientError Frame)
  | ⟨.answer lease request, answer⟩ => some (lease, request, answer)
  | _ => none

namespace Trace

/-- The answer that came in last. -/
def heard (trace : Trace) : Option (Lease × Request × Except ClientError Frame) :=
  (trace.filterMap Exchange.answer?).getLast?

/-- A rediscovery was begun that is not ended yet. -/
def isRediscovering (trace : Trace) : Bool :=
  trace.standing.rediscovering

@[simp] theorem heard_concat (past : Trace) (exchange : Exchange) :
    heard (past ++ [exchange]) = exchange.answer?.or past.heard := by
  cases answered : exchange.answer? <;> simp [heard, answered]

@[simp] theorem isRediscovering_begin (past : Trace) (started : Bool) :
    isRediscovering (past ++ [⟨.beginRediscovery, started⟩]) = (past.isRediscovering || started) := by
  -- Only a pass that was let in counts as begun, which the answer tells.
  rw [isRediscovering, standing_append]
  rfl

@[simp] theorem isRediscovering_end (past : Trace) :
    isRediscovering (past ++ [⟨.endRediscovery, ()⟩]) = false := by
  rw [isRediscovering, standing_append]
  rfl

/-- Any other step belongs to the rediscovery if there is one. -/
theorem isRediscovering_concat (past : Trace) {op : Op} (inner : op.isBoundary = false)
    (answer : op.Answer) : isRediscovering (past ++ [⟨op, answer⟩]) = past.isRediscovering := by
  rw [isRediscovering, standing_append]
  -- Only an owner that was found and a layout that was loaded are told apart by the answer.
  cases op with
  | owner slot => cases answer <;> rfl
  | rebuild ranges => rcases answer with _ | _ <;> rfl
  | beginRediscovery => simp [Op.isBoundary] at inner
  | endRediscovery => simp [Op.isBoundary] at inner
  | _ => rfl

/-- The last answer redirects some slots for good to a node, at an address that the client can
reach. -/
def Redirects (translator : Translator) (past : Trace) (slots : List Nat) (node : Endpoint) : Prop :=
  ∃ lease request answer slot target, past.heard = some (lease, request, answer) ∧
    Redirect.classify answer lease.endpoint = .ok (.moved slot target) ∧
    slots = [slot] ∧ node = translator.apply target

/-- The last answer reports a layout, whose masters are at addresses that the client can reach. -/
def Reports (translator : Translator) (past : Trace) (ranges : List SlotRange) : Prop :=
  ∃ lease reply, past.heard = some (lease, .layout, .ok reply) ∧
    Discovery.layout translator lease.endpoint reply = .ok ranges

/-- The last answer is that of the node of a pool, which is alive. -/
def FoundAlive (past : Trace) (pool : PoolRef) : Prop :=
  ∃ lease, lease.endpoint = pool.endpoint ∧
    past.heard = some (lease, .ping, .ok (.simple "PONG"))

/-- Since then nothing was heard, and no rediscovery was begun or ended. -/
structure Still (past now : Trace) : Prop where
  heard : now.heard = past.heard
  rediscovering : now.isRediscovering = past.isRediscovering

namespace Still

variable {past middle now : Trace}

/-- At first nothing has happened. -/
theorem refl (past : Trace) : Still past past :=
  ⟨rfl, rfl⟩

/-- Nothing has happened if nothing has happened before and since. -/
theorem trans (first : Still past middle) (second : Still middle now) : Still past now :=
  ⟨second.heard.trans first.heard, second.rediscovering.trans first.rediscovering⟩

/-- A plain step leaves everything as it was. -/
theorem concat (past : Trace) {op : Op} (plain : op.isPlain = true) (answer : op.Answer) :
    Still past (past ++ [⟨op, answer⟩]) := by
  constructor
  · -- Answers are not plain, so nothing new was heard.
    have unheard : Exchange.answer? ⟨op, answer⟩ = none := by
      -- The operations that answer somebody are the requests alone, and `isPlain` leaves them out.
      cases op <;> first | rfl | simp [Op.isPlain] at plain
    rw [heard_concat, unheard, Option.none_or]
  -- The beginning and the end of a rediscovery are not plain either.
  · refine isRediscovering_concat past ?_ answer
    cases op <;> first | rfl | simp [Op.isPlain] at plain

end Still

end Trace

/-- Only `PONG` shows that a node is alive. -/
theorem Dispatcher.pong_iff {reply : Except ClientError Frame} :
    reply.bind Dispatcher.expectPong = .ok () ↔ reply = .ok (.simple "PONG") := by
  constructor
  · intro accepted
    rcases reply with error | frame
    · simp [Except.bind] at accepted
    · -- Every other reply is turned into an error.
      simp only [Except.bind] at accepted
      unfold Dispatcher.expectPong at accepted
      split at accepted
      · rfl
      · simp at accepted
      · simp at accepted
  · rintro rfl
    rfl

namespace Client

/-- What the programs of a client do, and when; nothing is granted to them. -/
def rules (translator : Translator) : Rules where
  -- Redirects and layouts are looked for in the past, as the last answer heard.
  allowed past
    | .assign slots node => past.Redirects translator slots node
    | .rebuild ranges => past.Reports translator ranges
    | .beginRediscovery => past.isRediscovering = false
    | .endRediscovery => past.isRediscovering = true
    | .close => past = []
    | op => op.isRoutine = true
  granted _ _ := True

variable {translator : Translator} {past : Trace} {pool : PoolRef}

/-- Whatever has been done so far, only routine steps are allowed. -/
theorem routine_of_allowed {op : Op} (allowed : (rules translator).allowed past op) :
    op.isRoutine = true := by
  -- Whatever asks for more than being routine is itself routine.
  cases op <;> first | rfl | exact allowed

/-- A plain step is allowed at any time. -/
theorem allowed_of_plain {op : Op} (plain : op.isPlain = true) :
    (rules translator).allowed past op := by
  -- Whatever asks for a reason is not plain.
  cases op <;> first | rfl | simp [Op.isPlain, Op.isRoutine] at plain

/-- A plain step may be taken whatever follows it. -/
theorem ask_conducts {α : Type} {required : Trace → α → Prop} {op : Op}
    (plain : op.isPlain = true) {next : op.Answer → Program α}
    (rest : ∀ answer, past.Still (past ++ [⟨op, answer⟩]) →
      (next answer).Conducts (rules translator) required (past ++ [⟨op, answer⟩])) :
    (Program.ask op next).Conducts (rules translator) required past :=
  ⟨allowed_of_plain plain, fun answer _ => rest answer (.concat past plain answer)⟩

/-- Who checks a connection out hears nothing, and gets one of the pool. -/
theorem acquire_conducts (pool : PoolRef) :
    (Program.acquire pool).Conducts (rules translator) (fun now acquired =>
      past.Still now ∧ ∀ lease, acquired = .ok lease → lease.endpoint = pool.endpoint) past := by
  -- Four steps at most, and each of them may be the last.
  refine ask_conducts rfl fun entered first => ?_
  cases entered with
  | error error => exact ⟨first, nofun⟩
  | ok ticket =>
    refine ask_conducts rfl fun permit second => ?_
    cases permit with
    | error error => exact ⟨first.trans second, nofun⟩
    | ok granted =>
      refine ask_conducts rfl fun reused third => ?_
      cases reused with
      -- An idle connection is of that pool.
      | true => exact ⟨(first.trans second).trans third, by rintro _ ⟨⟩; rfl⟩
      | false =>
        refine ask_conducts rfl fun connected fourth => ?_
        have still := ((first.trans second).trans third).trans fourth
        cases connected with
        | error error => exact ⟨still, nofun⟩
        -- So is one that was opened for it.
        | ok opened => exact ⟨still, by rintro _ ⟨⟩; rfl⟩

/-- Who sends a request hears the answer to it. -/
theorem request_conducts (lease : Lease) (request : Request) :
    (Program.request lease request).Conducts (rules translator) (fun now answer =>
      now.heard = some (lease, request, answer) ∧ now.isRediscovering = past.isRediscovering)
      past := by
  -- Sending is a plain step, and the answer to it is the last one that came in.
  refine ask_conducts rfl fun _ still => ⟨rfl, fun answer _ => ?_⟩
  exact ⟨by rw [Trace.heard_concat]; rfl,
    (Trace.isRediscovering_concat _ rfl answer).trans still.rediscovering⟩

/-- Who gives a connection back hears nothing. -/
theorem release_conducts (lease : Lease) :
    (Program.release lease).Conducts (rules translator) (fun now _ => past.Still now) past := by
  -- The permit of a pooled connection goes back, and a direct one is just dropped.
  cases lease with
  | pooled pool ticket => exact ask_conducts rfl fun _ still => still
  | direct node number => exact .refl past

/-- A layout is loaded as soon as the node has reported it. -/
theorem refreshFrom_conducts (pool : PoolRef) :
    (Discovery.refreshFrom translator pool).Conducts (rules translator) (fun now _ =>
      now.isRediscovering = past.isRediscovering) past := by
  refine (acquire_conducts pool).bind fun now acquired ⟨first, leased⟩ => ?_
  cases acquired with
  | error error => exact first.rediscovering
  | ok lease =>
    refine (request_conducts lease .layout).bind fun later reply ⟨heard, second⟩ => ?_
    refine (release_conducts lease).bind fun last _ third => ?_
    have rediscovering := third.rediscovering.trans (second.trans first.rediscovering)
    cases read : reply.bind (Discovery.layout translator pool.endpoint) with
    | error error => exact rediscovering
    | ok ranges =>
      -- A layout was read, so there was a reply to read it from.
      cases reply with
      | error error => simp [Except.bind] at read
      | ok frame =>
        refine ⟨⟨lease, frame, third.heard.trans heard, ?_⟩, fun rebuilt _ => ?_⟩
        -- The layout was read with the address of the pool, which is that of the connection.
        · rw [leased lease rfl]
          exact read
        · exact (Trace.isRediscovering_concat last rfl rebuilt).trans rediscovering

/-- Nodes are asked in turn without beginning or ending a rediscovery. -/
theorem pass_conducts (preferred : Option PoolRef) :
    (Discovery.pass translator preferred).Conducts (rules translator) (fun now _ =>
      now.isRediscovering = past.isRediscovering) past := by
  have turns : ∀ (pools : List PoolRef) (past : Trace),
      (Discovery.firstRefreshed translator pools).Conducts (rules translator) (fun now _ =>
        now.isRediscovering = past.isRediscovering) past := by
    intro pools
    -- Each node is asked after whatever the ones before it have answered, so the past is any.
    induction pools with
    | nil => exact fun _ => rfl
    | cons pool rest ih =>
      refine fun past => (refreshFrom_conducts pool).bind fun now refreshed same => ?_
      cases refreshed with
      -- The first layout that could be loaded ends the search.
      | ok loaded => exact same
      | error error => exact (ih now).mono fun _ _ still => still.trans same
  have others : ∀ (asked : Option PoolRef) (past : Trace),
      (Discovery.askOthers translator asked).Conducts (rules translator) (fun now _ =>
        now.isRediscovering = past.isRediscovering) past := fun asked past =>
    ask_conducts rfl fun known still =>
      (turns _ _).mono fun _ _ same => same.trans still.rediscovering
  cases preferred with
  -- Without a preferred node all known nodes are asked.
  | none => exact others none past
  | some pool =>
    refine (refreshFrom_conducts pool).bind fun now refreshed same => ?_
    cases refreshed with
    | ok loaded => exact same
    -- The preferred node failed, so the others are asked after it.
    | error error => exact (others (some pool) now).mono fun _ _ still => still.trans same

/-- A rediscovery that is begun is ended, and one that is refused is over at once. -/
theorem rediscover_conducts (idle : past.isRediscovering = false) (preferred : Option PoolRef) :
    (Discovery.rediscover translator preferred).Conducts (rules translator) (fun now outcome =>
      now.isRediscovering = false ∧
        (outcome = .alreadyInProgress → now = past ++ [⟨.beginRediscovery, false⟩])) past := by
  refine ⟨idle, fun started _ => ?_⟩
  cases started with
  -- Who is refused stops there, and has nothing to end.
  | false => exact ⟨by simpa using idle, fun _ => rfl⟩
  | true =>
    refine (pass_conducts preferred).bind fun now found same => ?_
    have begun : now.isRediscovering = true := by simpa using same
    -- Whatever was found, the rediscovery is ended before anything is told.
    refine ⟨begun, fun _ _ => ?_⟩
    cases found <;> exact ⟨Trace.isRediscovering_end now, nofun⟩

/-- Nodes are pinged without beginning or ending a rediscovery, and the one that is chosen has just
shown that it is alive. -/
theorem fallback_conducts :
    Dispatcher.fallback.Conducts (rules translator) (fun now result =>
      now.isRediscovering = past.isRediscovering ∧
        ∀ pool, result = .ok pool → now.FoundAlive pool) past := by
  have pinged : ∀ (pool : PoolRef) (past : Trace),
      (Dispatcher.ping pool).Conducts (rules translator) (fun now pong =>
        now.isRediscovering = past.isRediscovering ∧ (pong = .ok () → now.FoundAlive pool)) past := by
    -- The node is asked over a connection of its pool, so the pong is its own.
    intro pool past
    refine (acquire_conducts pool).bind fun now acquired ⟨first, leased⟩ => ?_
    cases acquired with
    | error error => exact ⟨first.rediscovering, nofun⟩
    | ok lease =>
      refine (request_conducts lease .ping).bind fun later reply ⟨heard, second⟩ => ?_
      -- Giving the connection back makes nothing else heard, so the pong is still the last answer.
      refine (release_conducts lease).bind fun last _ third =>
        ⟨third.rediscovering.trans (second.trans first.rediscovering), fun pong => ?_⟩
      refine ⟨lease, leased lease rfl, (third.heard.trans heard).trans ?_⟩
      -- The reply was accepted, so it can only have been `PONG`.
      rw [Dispatcher.pong_iff.1 pong]
  have alive : ∀ (pools : List PoolRef) (failure : Option ClientError) (past : Trace),
      (Dispatcher.firstAlive failure pools).Conducts (rules translator) (fun now result =>
        now.isRediscovering = past.isRediscovering ∧
          ∀ pool, result = .ok pool → now.FoundAlive pool) past := by
    intro pools
    induction pools with
    | nil => exact fun _ _ => ⟨rfl, nofun⟩
    | cons pool rest ih =>
      refine fun failure past => (pinged pool past).bind fun now pong ⟨same, found⟩ => ?_
      cases pong with
      -- The first node that answers is chosen, and its pong is the last thing heard.
      | ok answered => exact ⟨same, by rintro _ ⟨⟩; exact found rfl⟩
      -- A node that does not answer is passed over, and the choice is made among the rest.
      | error error => exact (ih _ now).mono fun _ _ ⟨still, found⟩ => ⟨still.trans same, found⟩
  refine ask_conducts rfl fun closed first => ?_
  cases closed with
  | true => exact ⟨first.rediscovering, nofun⟩
  | false =>
    exact ask_conducts rfl fun known second => (alive _ _ _).mono fun _ _ ⟨same, found⟩ =>
      ⟨same.trans (first.trans second).rediscovering, found⟩

variable {dispatcher : Dispatcher}

/-- The way to a pool begins no rediscovery that it does not end. -/
theorem choose_conducts (idle : past.isRediscovering = false) (slot : Option Nat) (route : Route) :
    (dispatcher.choose slot route).Conducts (rules dispatcher.translator) (fun now _ =>
      now.isRediscovering = false) past := by
  -- The search for a live node leaves rediscoveries alone, from any point on.
  have fallen : ∀ {past : Trace}, past.isRediscovering = false →
      Dispatcher.fallback.Conducts (rules dispatcher.translator) (fun now _ =>
        now.isRediscovering = false) past := fun idle =>
    fallback_conducts.mono fun _ _ ⟨same, _⟩ => same.trans idle
  have owned : (dispatcher.ownerPool slot).Conducts (rules dispatcher.translator) (fun now _ =>
      now.isRediscovering = false) past := by
    -- Without a slot to look up, any live node will do.
    cases slot with
    | none => exact fallen idle
    | some slot =>
      refine ask_conducts rfl fun owner first => ?_
      cases owner with
      -- The owner is known, so nothing else is done.
      | some pool => exact first.rediscovering.trans idle
      | none =>
        refine ask_conducts rfl fun known second => ?_
        have idle := (first.trans second).rediscovering.trans idle
        simp only [Program.bind_done]
        split
        · exact fallen idle
        · -- With some node known, the layout is loaded before the slot is looked up again.
          refine (rediscover_conducts idle none).bind fun now _ ⟨idle, _⟩ => ?_
          refine ask_conducts rfl fun owner third => ?_
          have idle := third.rediscovering.trans idle
          cases owner with
          | some pool => exact idle
          | none => exact fallen idle
  cases route with
  -- The owner's way asks for nothing more.
  | owner => exact owned.bind fun _ _ idle => idle
  | asking target =>
    refine ask_conducts rfl fun known first => ?_
    cases known with
    -- The target of an `ASK` is known already, or registered as it is needed.
    | some pool => exact first.rediscovering.trans idle
    | none =>
      exact ask_conducts rfl fun _ second => (first.trans second).rediscovering.trans idle

/-- What an attempt comes to is the meaning of the last answer, if it is a redirect for good. -/
theorem attempt_conducts (pool : PoolRef) (frame : Frame) (asking : Bool) :
    (Dispatcher.attempt pool frame asking).Conducts (rules translator) (fun now outcome =>
      now.isRediscovering = past.isRediscovering ∧ ∀ slot target,
        outcome = .ok (.moved slot target) → ∃ lease request answer,
          now.heard = some (lease, request, answer) ∧
          Redirect.classify answer lease.endpoint = .ok (.moved slot target)) past := by
  refine (acquire_conducts pool).bind fun now acquired ⟨first, _⟩ => ?_
  cases acquired with
  | error error =>
    refine ⟨first.rediscovering, fun slot target redirected => ?_⟩
    -- Without a connection nobody can redirect.
    split at redirected <;> simp at redirected
  | ok lease =>
    -- The command is sent once, and its reply is judged by the address of the connection.
    have plain : ∀ past : Trace, (Program.bind (Program.request lease (.command frame)) fun reply =>
        .done (Redirect.classify reply lease.endpoint)).Conducts (rules translator)
        (fun now outcome => now.isRediscovering = past.isRediscovering ∧
          ∃ request answer, now.heard = some (lease, request, answer) ∧
            outcome = Redirect.classify answer lease.endpoint) past := fun past =>
      (request_conducts lease _).bind fun _ answer ⟨heard, same⟩ => ⟨same, _, answer, heard, rfl⟩
    have conversed : (Dispatcher.converse lease frame asking).Conducts (rules translator)
        (fun later outcome => later.isRediscovering = now.isRediscovering ∧
          ∃ request answer, later.heard = some (lease, request, answer) ∧
            outcome = Redirect.classify answer lease.endpoint) now := by
      cases asking with
      -- No `ASKING` is needed, so there is only the command.
      | false => exact plain now
      | true =>
        refine (request_conducts lease .asking).bind fun later acknowledged ⟨heard, same⟩ => ?_
        split
        · exact (plain later).mono fun _ _ ⟨still, outcome⟩ => ⟨still.trans same, outcome⟩
        · -- `ASKING` was not acknowledged, so its own answer is the last one.
          exact ⟨same, _, _, heard, rfl⟩
    -- The connection goes back before the outcome is judged, which makes nothing heard.
    refine conversed.bind fun later outcome ⟨same, request, answer, heard, judged⟩ => ?_
    refine (release_conducts lease).bind fun last _ still => ?_
    refine ⟨still.rediscovering.trans (same.trans first.rediscovering), fun slot target moved => ?_⟩
    -- What was judged is what was heard, whichever of the two requests it answered.
    exact ⟨lease, request, answer, still.heard.trans heard, judged ▸ moved⟩

/-- A command gives slots away only as it is redirected, and ends each rediscovery that it begins. -/
theorem dispatch_conducts (idle : past.isRediscovering = false) (command : Command) :
    (dispatcher.execute command).Conducts (rules dispatcher.translator) (fun now _ =>
      now.isRediscovering = false) past := by
  -- Every attempt starts outside of rediscoveries, with one attempt less behind it.
  have runs : ∀ slot frame remaining progress (past : Trace), past.isRediscovering = false →
      (dispatcher.run slot frame remaining progress).Conducts (rules dispatcher.translator)
        (fun now _ => now.isRediscovering = false) past := by
    intro slot frame remaining
    induction remaining with
    | zero => exact fun _ _ idle => idle
    | succ remaining ih =>
      intro progress past idle
      refine ask_conducts rfl fun closed first => ?_
      have idle := first.rediscovering.trans idle
      cases closed with
      -- The client was closed meanwhile, so the command stops.
      | true => exact idle
      | false =>
        refine (choose_conducts idle slot progress.route).bind fun now chosen idle => ?_
        rcases chosen with error | ⟨pool, asking⟩
        -- Nobody could be chosen, and the command fails without an attempt.
        · exact idle
        · refine (attempt_conducts pool frame asking).bind fun later outcome ⟨same, redirects⟩ => ?_
          have idle := same.trans idle
          rcases outcome with error | (reply | ⟨moved, target⟩ | ⟨asked, target⟩ | error)
          -- An error that is no reply ends the command.
          · exact idle
          -- So does a reply.
          · exact idle
          · -- The redirect is what was heard last.
            obtain ⟨lease, request, answer, heard, judged⟩ := redirects moved target rfl
            refine ⟨⟨lease, request, answer, moved, target, heard, judged, rfl, rfl⟩,
              fun assigned _ => ?_⟩
            have idle := (Trace.isRediscovering_concat later rfl assigned).trans idle
            cases assigned with
            -- The target could not be registered, which ends the command too.
            | error error => exact idle
            | ok owner => exact ih _ _ idle
          -- An `ASK` takes only a turn, with the target as the next route.
          · exact ih _ _ idle
          · -- The rediscovery after a failure is over before the next attempt.
            exact (rediscover_conducts idle _).bind fun _ _ ⟨idle, _⟩ => ih _ _ idle
  unfold Dispatcher.execute
  split
  -- A command across slots is refused with nothing done.
  · exact idle
  · exact runs _ _ _ _ _ idle

end Client

end RedisCluster
