import RedisCluster.Proofs.Dispatcher.Chronicle
import RedisCluster.Proofs.Program.Conduct
import RedisCluster.Proofs.Topology.Steady

/-! A command for a slot whose owner is lost: where it turns to, and how it ends as long as the nodes
that are left know the new owner. -/

namespace RedisCluster

/-- A node that is lost, the node that has taken over its slot, and the nodes that can be reached. -/
structure Failover where
  slot : Nat
  lost : Endpoint
  heir : Endpoint
  isReachable : Endpoint → Bool
  /-- Another spelling of a host makes no difference. -/
  congr : ∀ {one other : Endpoint}, one.sameNode other = true → isReachable one = isReachable other
  lost_unreachable : isReachable lost = false
  heir_reachable : isReachable heir = true

/-- A result that shows that a node is gone. -/
def LostContact {α : Type} (result : Except ClientError α) : Prop :=
  ∃ error, result = .error error ∧ error.isConnectivity = true

/-- What a caller knows from its own steps. -/
structure Standing where
  /-- The pools that it has heard of. -/
  pools : List PoolRef := []
  /-- It has loaded a layout. -/
  loaded : Bool := false
  /-- Whether it was the one to rediscover, each time that it wanted to. -/
  passes : List Bool := []
  /-- It is rediscovering. -/
  rediscovering : Bool := false

/-- What a caller knows after one more step. -/
def Standing.after (standing : Standing) : Exchange → Standing
  | ⟨.owner _, some pool⟩ => { standing with pools := pool :: standing.pools }
  | ⟨.knownPools, known⟩ => { standing with pools := known ++ standing.pools }
  | ⟨.rebuild _, .ok ()⟩ => { standing with loaded := true }
  | ⟨.beginRediscovery, started⟩ =>
    { standing with
      passes := standing.passes ++ [started]
      rediscovering := standing.rediscovering || started }
  | ⟨.endRediscovery, _⟩ => { standing with rediscovering := false }
  | _ => standing

/-- What a caller knows after some steps. -/
def Trace.standing (trace : Trace) : Standing :=
  trace.foldl Standing.after {}

@[simp] theorem Trace.standing_append (front back : Trace) :
    Trace.standing (front ++ back) = back.foldl Standing.after front.standing :=
  List.foldl_append

namespace Failover

variable (failover : Failover)

/-- How connecting to a node turns out. -/
def Connects (node : Endpoint) (outcome : Except ClientError Unit) : Prop :=
  -- A node that cannot be reached fails with an error of connectivity, whatever that is.
  if failover.isReachable node then outcome = .ok () else LostContact outcome

/-- How a request to a node turns out: nodes that can be reached know the new owner, and the new
owner answers commands normally. -/
def Answers (translator : Translator) (node : Endpoint) (request : Request)
    (answer : Except ClientError Frame) : Prop :=
  if failover.isReachable node then
    match request with
    -- Its layout has some master for the slot, and that is the new owner under any spelling.
    | .layout => ∃ ranges master, answer.bind (Discovery.layout translator node) = .ok ranges ∧
        Layout.master? failover.slot ranges = some master ∧ master.sameNode failover.heir = true
    -- Only the new owner is bound to reply normally to a command.
    | .command _ =>
      node.sameNode failover.heir = true → ∃ reply, answer = .ok reply ∧ reply.asError = none
    | _ => True
  else LostContact answer

/-- What the surroundings decide about a step is what they decide in a failover. -/
def Decides (translator : Translator) : (op : Op) → op.Choice → Prop
  | .connect pool _, outcome => failover.Connects pool.endpoint outcome
  | .answer lease request, answer => failover.Answers translator lease.endpoint request answer
  | _, _ => True

/-- A node that owns the slot: the new owner, or the old one as long as no layout was loaded. -/
def Owns (loaded : Bool) (node : Endpoint) : Prop :=
  node.sameNode failover.heir = true ∨ loaded = false ∧ node.sameNode failover.lost = true

/-- What callers in a failover do, and what they are told. -/
def rules (translator : Translator) : Rules where
  allowed past
    -- A caller turns to pools that it has been told of.
    | .enter pool | .awaitPermit pool _ => pool ∈ past.standing.pools
    -- It loads a layout only if that gives the slot to the new owner.
    | .rebuild ranges => ∃ master, Layout.master? failover.slot ranges = some master ∧
        master.sameNode failover.heir = true
    | .beginRediscovery => past.standing.rediscovering = false
    -- Nobody changes the table in any other way, and nobody closes anything.
    | .register _ | .assign _ _ | .reset | .close | .closePool _ => False
    | _ => True
  granted past
    | ⟨.isClosed, closed⟩ => closed = false
    -- The slot has an owner, which cannot be the lost node any more once a layout was loaded.
    | ⟨.owner slot, owner⟩ => slot = failover.slot →
        ∃ pool, owner = some pool ∧ failover.Owns past.standing.loaded pool.endpoint
    | ⟨.knownPools, known⟩ => ∃ pool ∈ known, failover.isReachable pool.endpoint = true
    | ⟨.enter _, entered⟩ => ∃ ticket, entered = .ok ticket
    | ⟨.awaitPermit _ _, permit⟩ => permit = .ok ()
    | ⟨.rebuild _, rebuilt⟩ => rebuilt = .ok ()
    | ⟨.connect pool _, outcome⟩ => failover.Connects pool.endpoint outcome
    | ⟨.answer lease request, answer⟩ => failover.Answers translator lease.endpoint request answer
    | _ => True

variable {failover} {translator : Translator} {past : Trace} {pool : PoolRef}

/-- Who is let in and gets a permit has a connection at the end, unless the node cannot be reached. -/
theorem acquire_conducts (known : pool ∈ past.standing.pools) :
    (Program.acquire pool).Conducts (failover.rules translator) (fun now acquired =>
      now.standing = past.standing ∧ ((∃ ticket, acquired = .ok (.pooled pool ticket)) ∨
        failover.isReachable pool.endpoint = false ∧ LostContact acquired)) past := by
  -- The pool is known, so its door may be tried.
  refine ⟨known, fun entered granted => ?_⟩
  obtain ⟨ticket, rfl⟩ := granted
  -- The pool stays known, so waiting for its permit is allowed.
  have still : pool ∈ (Trace.standing (past ++ [⟨.enter pool, .ok ticket⟩])).pools := by
    simpa [Standing.after] using known
  refine ⟨still, fun permit granted => ?_⟩
  obtain rfl : permit = .ok () := granted
  refine ⟨trivial, fun reused _ => ?_⟩
  cases reused with
  -- An idle connection is used again, whatever has become of its node.
  | true => exact ⟨by simp [Standing.after], .inl ⟨ticket, rfl⟩⟩
  | false =>
    refine ⟨trivial, fun connected granted => ?_⟩
    have connects : failover.Connects pool.endpoint connected := granted
    cases connected with
    | ok opened => exact ⟨by simp [Standing.after], .inl ⟨ticket, rfl⟩⟩
    | error error =>
      unfold Connects at connects
      split at connects
      · -- A node that can be reached refuses no connection.
        cases connects
      · rename_i gone
        obtain ⟨_, same, lost⟩ := connects
        cases same
        exact ⟨by simp [Standing.after], .inr ⟨by simpa using gone, error, rfl, lost⟩⟩

/-- A request is answered as in a failover. -/
theorem request_conducts (lease : Lease) (request : Request) :
    (Program.request lease request).Conducts (failover.rules translator) (fun now answer =>
      now.standing = past.standing ∧ ⟨.answer lease request, answer⟩ ∈ now ∧
        failover.Answers translator lease.endpoint request answer) past :=
  ⟨trivial, fun _ _ => ⟨trivial, fun _ granted => ⟨by simp [Standing.after], by simp, granted⟩⟩⟩

/-- Giving a connection back makes no difference to what a caller knows. -/
theorem release_conducts (lease : Lease) :
    (Program.release lease).Conducts (failover.rules translator) (fun now _ =>
      now.standing = past.standing ∧ past ⊆ now) past := by
  -- Only a pooled connection is given back by a step.
  cases lease with
  | pooled pool ticket => exact ⟨trivial, fun _ _ => ⟨by simp [Standing.after], by simp⟩⟩
  | direct node number => exact ⟨rfl, fun _ member => member⟩

/-- An attempt shows that a node is gone which cannot be reached, and brings the reply of the new
owner. -/
theorem attempt_conducts (known : pool ∈ past.standing.pools) (frame : Frame) :
    (Dispatcher.attempt pool frame false).Conducts (failover.rules translator) (fun now outcome =>
      now.standing = past.standing ∧
      (failover.isReachable pool.endpoint = false →
        ∃ error, outcome = .ok (.connectionFailure error) ∧ error.isConnectivity = true) ∧
      (pool.endpoint.sameNode failover.heir = true →
        ∃ lease reply, outcome = .ok (.reply reply) ∧
          lease.endpoint.sameNode failover.heir = true ∧
          ⟨.answer lease (.command frame), .ok reply⟩ ∈ now)) past := by
  -- First there is a connection, or the failure to get one.
  refine (acquire_conducts known).bind fun now acquired got => ?_
  obtain ⟨standing, ⟨ticket, rfl⟩ | ⟨gone, error, rfl, lost⟩⟩ := got
  · -- The connection is used for one request, whose answer decides the outcome.
    have conversed : (Dispatcher.converse (.pooled pool ticket) frame false).Conducts
        (failover.rules translator) (fun later outcome => ∃ answer,
          later.standing = now.standing ∧
          ⟨.answer (.pooled pool ticket) (.command frame), answer⟩ ∈ later ∧
          failover.Answers translator pool.endpoint (.command frame) answer ∧
          outcome = Redirect.classify answer pool.endpoint) now :=
      (request_conducts _ _).bind fun _ answer answered =>
        ⟨answer, answered.1, answered.2.1, answered.2.2, rfl⟩
    refine conversed.bind fun later outcome ⟨answer, same, there, answers, judged⟩ => ?_
    refine (release_conducts _).bind fun last _ ⟨still, kept⟩ => ?_
    refine ⟨still.trans (same.trans standing), fun gone => ?_, fun heir => ?_⟩
    · -- A connection to the node may still have been idle, but nothing comes of it.
      rw [Answers, gone] at answers
      obtain ⟨error, rfl, lost⟩ := answers
      exact ⟨error, by simp [judged, Redirect.classify, lost], lost⟩
    · rw [Answers, failover.congr heir, failover.heir_reachable] at answers
      -- The new owner replies, and its reply is no redirect.
      obtain ⟨reply, rfl, normal⟩ := answers heir
      exact ⟨.pooled pool ticket, reply, judged.trans (Redirect.classify_of_normal normal _), heir,
        kept there⟩
  · -- There was no connection to be had, so the node is not the new owner.
    refine ⟨standing, fun _ => ⟨error, by simp [lost], lost⟩, fun heir => ?_⟩
    rw [failover.congr heir, failover.heir_reachable] at gone
    cases gone

/-- A node that can be reached has its layout loaded, and others leave everything as it was. -/
theorem refreshFrom_conducts (known : pool ∈ past.standing.pools) :
    (Discovery.refreshFrom translator pool).Conducts (failover.rules translator)
      (fun now refreshed =>
        refreshed = .ok () ∧ now.standing = { past.standing with loaded := true } ∨
          failover.isReachable pool.endpoint = false ∧ now.standing = past.standing ∧
            ∃ error, refreshed = .error error) past := by
  refine (acquire_conducts known).bind fun now acquired got => ?_
  -- Only a connection that was got can be asked for the layout.
  obtain ⟨standing, ⟨ticket, rfl⟩ | ⟨gone, error, rfl, _⟩⟩ := got
  · refine (request_conducts _ _).bind fun later answer ⟨same, _, answers⟩ => ?_
    refine (release_conducts _).bind fun last _ ⟨still, _⟩ => ?_
    have standing := still.trans (same.trans standing)
    have answers : failover.Answers translator pool.endpoint .layout answer := answers
    unfold Answers at answers
    split at answers
    · -- The layout gives the slot to the new owner, so it may be loaded.
      obtain ⟨ranges, master, read, gives, heir⟩ := answers
      rw [read]
      refine ⟨⟨master, gives, heir⟩, fun rebuilt granted => ?_⟩
      obtain rfl : rebuilt = .ok () := granted
      exact .inl ⟨rfl, by simp [Standing.after, standing]⟩
    · rename_i gone
      -- The connection was idle, and the request was lost on it.
      obtain ⟨error, rfl, _⟩ := answers
      exact .inr ⟨by simpa using gone, standing, error, rfl⟩
  -- Without a connection nothing was loaded, and the node was one of those that are gone.
  · exact .inr ⟨gone, standing, error, rfl⟩

/-- Nodes that are asked in turn leave the layout of one of them, if one can be reached. -/
theorem firstRefreshed_conducts {pools : List PoolRef}
    (known : ∀ pool ∈ pools, pool ∈ past.standing.pools)
    (reachable : ∃ pool ∈ pools, failover.isReachable pool.endpoint = true) :
    (Discovery.firstRefreshed translator pools).Conducts (failover.rules translator) (fun now _ =>
      now.standing = { past.standing with loaded := true }) past := by
  -- A node that is gone leaves what is known as it was, so the next one is asked as the first was.
  induction pools generalizing past with
  | nil => simp at reachable
  | cons pool rest ih =>
    refine (refreshFrom_conducts (known pool List.mem_cons_self)).bind fun now refreshed got => ?_
    rcases got with ⟨rfl, standing⟩ | ⟨gone, standing, error, rfl⟩
    · exact standing
    · -- The node that can be reached is among the others.
      obtain ⟨other, member, reached⟩ := reachable
      have later : other ∈ rest := by
        rcases List.mem_cons.1 member with rfl | later
        · simp [gone] at reached
        · exact later
      -- Nothing was forgotten, so the others may be asked.
      have still : ∀ pool ∈ rest, pool ∈ now.standing.pools := fun pool member =>
        standing ▸ known pool (List.mem_cons_of_mem _ member)
      exact (ih still ⟨other, later, reached⟩).mono fun last _ loaded => by rw [loaded, standing]

/-- Who rediscovers loads a layout, and who is refused goes on as before. -/
theorem rediscover_conducts (idle : past.standing.rediscovering = false) :
    (Discovery.rediscover translator none).Conducts (failover.rules translator) (fun now _ =>
      ∃ started, now.standing.passes = past.standing.passes ++ [started] ∧
        now.standing.loaded = (past.standing.loaded || started) ∧
        now.standing.rediscovering = false) past := by
  -- Nobody rediscovers twice at once, so the wish is allowed.
  refine ⟨idle, fun started _ => ?_⟩
  cases started with
  -- Another caller is rediscovering, so this one does not.
  | false => exact ⟨false, by simp [Standing.after, idle]⟩
  | true =>
    -- Nobody is preferred, so all known nodes are asked.
    have passed : (Discovery.pass translator none).Conducts (failover.rules translator)
        (fun now _ => now.standing.passes = past.standing.passes ++ [true] ∧
          now.standing.loaded = true) (past ++ [⟨.beginRediscovery, true⟩]) := by
      refine ⟨trivial, fun known granted => ?_⟩
      obtain ⟨pool, member, reachable⟩ := granted
      have asked : known.filter (fun pool => (none : Option PoolRef).all fun other =>
          decide (pool.id ≠ other.id)) = known := by
        simp
      simp only [Program.bind_done, asked]
      refine (firstRefreshed_conducts (fun pool member => ?_) ⟨pool, member, reachable⟩).mono
        fun now _ standing => ?_
      · simp [Standing.after, member]
      · simp [standing, Standing.after]
    -- What the pass has found makes no difference to what is known then.
    refine passed.bind fun now found ⟨passes, loaded⟩ => ⟨trivial, fun _ _ => ?_⟩
    cases found <;> exact ⟨true, by simp [Standing.after, passes, loaded]⟩

variable {dispatcher : Dispatcher} {frame : Frame}

/-- How a command may end: with a reply of the new owner to it, or without one when all its attempts
are used up and it was refused a rediscovery after each of them, except perhaps the last. -/
def Verdict (failover : Failover) (dispatcher : Dispatcher) (frame : Frame) (trace : Trace)
    (result : Except ClientError Frame) : Prop :=
  (∃ lease reply, result = .ok reply ∧ lease.endpoint.sameNode failover.heir = true ∧
    ⟨.answer lease (.command frame), .ok reply⟩ ∈ trace) ∨
  ∃ cause, result = .error (.clusterUnavailable dispatcher.maxRedirects cause) ∧
    cause.isConnectivity = true ∧ trace.standing.passes.length = dispatcher.maxRedirects ∧
    true ∉ trace.standing.passes.dropLast

/-- A command between two attempts that has not loaded a layout was refused a rediscovery each time;
only the last attempt may be followed by one that is of no use any more. -/
structure Pending (dispatcher : Dispatcher) (past : Trace) (remaining : Nat) (progress : Progress) :
    Prop where
  route : progress.route = .owner
  redirected : progress.redirected = false
  lastResponsive : progress.lastResponsive = none
  lastError : remaining < dispatcher.maxRedirects →
    ∃ error, progress.lastError = some error ∧ error.isConnectivity = true
  idle : past.standing.rediscovering = false
  passes : 0 < remaining ∧ past.standing.loaded = true ∨
    past.standing.passes.length + remaining = dispatcher.maxRedirects ∧
      true ∉ past.standing.passes.dropLast ∧ (0 < remaining → true ∉ past.standing.passes)

/-- An attempt is aimed at an owner of the slot. -/
theorem aim_conducts : (dispatcher.aim (some failover.slot) .owner).Conducts
    (failover.rules translator) (fun now chosen => ∃ pool, chosen = .ok (pool, false) ∧
      failover.Owns past.standing.loaded pool.endpoint ∧
      now.standing = { past.standing with pools := pool :: past.standing.pools }) past := by
  refine ⟨trivial, fun closed granted => ?_⟩
  -- The client is open, so the owner is looked up.
  obtain rfl : closed = false := granted
  refine ⟨trivial, fun owner granted => ?_⟩
  obtain ⟨pool, rfl, owns⟩ := granted rfl
  -- A pool that was named is known from then on.
  refine ⟨pool, rfl, ?_, by simp [Standing.after]⟩
  simpa [Standing.after] using owns

/-- A command whose attempts go to the owners of its slot ends in one of the two ways. -/
theorem run_conducts {remaining : Nat} {progress : Progress}
    (pending : Pending dispatcher past remaining progress) :
    (dispatcher.run (some failover.slot) frame remaining progress).Conducts
      (failover.rules dispatcher.translator) (failover.Verdict dispatcher frame) past := by
  -- `Pending` is the invariant: a layout is loaded and the next attempt finds the new owner, or every
  -- attempt so far has cost a rediscovery that was refused.
  induction remaining generalizing past progress with
  | zero =>
    -- Without attempts left, a layout that was loaded is of no use.
    rcases pending.passes with ⟨left, _⟩ | ⟨count, refused, _⟩
    · cases left
    · -- What is reported is the failure of the last attempt, for there was no redirect.
      obtain ⟨cause, lastError, lost⟩ := pending.lastError dispatcher.maxRedirects_pos
      refine .inr ⟨cause, ?_, lost, count, refused⟩
      simp [Dispatcher.outOfAttempts, pending.redirected, lastError]
  | succ remaining ih =>
    rw [Dispatcher.run_succ, pending.route]
    -- An attempt goes to an owner of the slot, the new one or the lost one.
    refine aim_conducts.bind fun now chosen ⟨pool, same, owns, standing⟩ => ?_
    subst same
    have known : pool ∈ now.standing.pools := by simp [standing]
    refine (attempt_conducts known frame).bind fun later outcome ⟨still, gone, heir⟩ => ?_
    rcases owns with new | ⟨unloaded, old⟩
    · -- The new owner was asked, and that is the end.
      obtain ⟨lease, reply, rfl, there, answered⟩ := heir new
      exact .inl ⟨lease, reply, rfl, there, answered⟩
    · -- The old owner is lost, so another rediscovery is due.
      obtain ⟨error, rfl, lost⟩ := gone ((failover.congr old).trans failover.lost_unreachable)
      have idle : later.standing.rediscovering = false := by rw [still, standing, pending.idle]
      have passes : later.standing.passes = past.standing.passes := by rw [still, standing]
      obtain ⟨count, _, refused⟩ := pending.passes.resolve_left (by simp [unloaded])
      have refused := refused (Nat.succ_pos remaining)
      -- Nobody has replied so far, so no node is preferred in the rediscovery.
      rw [Dispatcher.follow, pending.lastResponsive]
      refine (rediscover_conducts idle).bind fun last _ ⟨started, asked, loaded, ended⟩ => ?_
      refine ih ⟨rfl, pending.redirected, rfl, fun _ => ⟨error, rfl, lost⟩, ended, ?_⟩
      rw [asked, passes, List.dropLast_concat, List.length_append, List.length_singleton]
      cases started with
      -- Refused once more, with one attempt fewer.
      | false => exact .inr ⟨by omega, refused, fun _ => by simpa using refused⟩
      | true =>
        -- The layout comes too late if no attempt is left to make use of it.
        rcases Nat.eq_zero_or_pos remaining with none | left
        · exact .inr ⟨by omega, refused, fun left => by omega⟩
        · exact .inl ⟨left, by simp [loaded]⟩

/-- A command for the slot ends in one of the two ways. -/
theorem execute_conducts {command : Command} (keyed : command.slot = .ok (some failover.slot)) :
    (dispatcher.execute command).Conducts (failover.rules dispatcher.translator)
      (failover.Verdict dispatcher command.toFrame) [] := by
  rw [Dispatcher.execute, keyed]
  -- Nothing is known yet, and no attempt was made.
  exact run_conducts ⟨rfl, rfl, rfl, fun made => absurd made (Nat.lt_irrefl _), rfl,
    .inr ⟨Nat.zero_add _, by simp [Trace.standing], fun _ => by simp [Trace.standing]⟩⟩

end Failover

end RedisCluster
