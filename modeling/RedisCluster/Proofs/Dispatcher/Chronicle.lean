import RedisCluster.Proofs.Dispatcher.Attempts
import RedisCluster.Proofs.Topology.Consistency

/-! The parts of a command: how an attempt is aimed, and what follows it. -/

namespace RedisCluster.Dispatcher

/-- The way to the pool of an attempt, from the look at the closed flag on. -/
def aim (dispatcher : Dispatcher) (slot : Option Nat) (route : Route) :
    Program (Except ClientError (PoolRef × Bool)) :=
  .bind Program.isClosed fun closed =>
    if closed then .done (.error .clientClosed) else dispatcher.choose slot route

/-- What follows an attempt at a pool while `remaining` more may be made. -/
def follow (dispatcher : Dispatcher) (slot : Option Nat) (frame : Frame) (remaining : Nat)
    (progress : Progress) (pool : PoolRef) :
    Except ClientError Signal → Program (Except ClientError Frame)
  | .error error => .done (.error error)
  | .ok (.reply reply) => .done (.ok reply)
  | .ok (.moved moved target) =>
    let target := dispatcher.translator.apply target
    .bind (Program.assign [moved] target) fun
      | .error error => .done (.error error)
      | .ok _ =>
        dispatcher.run slot frame remaining
          { route := .owner
            redirected := true
            lastError := some (.moved moved target.socketAddress)
            lastResponsive := some pool }
  | .ok (.ask asked target) =>
    let target := dispatcher.translator.apply target
    dispatcher.run slot frame remaining
      { route := .asking target
        redirected := true
        lastError := some (.ask asked target.socketAddress)
        lastResponsive := some pool }
  | .ok (.connectionFailure error) =>
    .bind (Discovery.rediscover dispatcher.translator progress.lastResponsive) fun _ =>
      dispatcher.run slot frame remaining
        { progress with route := .owner, lastError := some error }

/-- One attempt is aimed, made and followed up. -/
theorem run_succ (dispatcher : Dispatcher) (slot : Option Nat) (frame : Frame) (remaining : Nat)
    (progress : Progress) :
    dispatcher.run slot frame (remaining + 1) progress =
      .bind (dispatcher.aim slot progress.route) fun
        | .error error => .done (.error error)
        | .ok (pool, asking) =>
          .bind (attempt pool frame asking)
            (dispatcher.follow slot frame remaining progress pool) := by
  -- Both sides take the same steps, and differ only in how they are put together.
  rw [run, aim, Program.bind_assoc]
  refine congrArg (Program.bind Program.isClosed) (funext fun closed => ?_)
  cases closed with
  | true => rfl
  -- An open client chooses a pool, makes the attempt, and goes on by the outcome.
  | false =>
    refine congrArg (Program.bind _) (funext fun chosen => ?_)
    rcases chosen with error | ⟨pool, asking⟩
    · rfl
    · refine congrArg (Program.bind _) (funext fun outcome => ?_)
      rcases outcome with error | (reply | ⟨moved, target⟩ | ⟨asked, target⟩ | error) <;> rfl

/-- No pool was found for an attempt, because the client is closed or no node is alive. -/
def Unrouted (error : ClientError) : Prop :=
  error = .clientClosed ∨ ∃ cause, error = .noReachableNode cause

/-- Looking for a node that is alive fails only if there is none or the client is closed. -/
theorem fallback_yields :
    fallback.Yields fun result => ∀ error, result = .error error → Unrouted error := by
  -- The pools are tried in their order, and the failure carried along is that of the last one.
  have alive : ∀ failure pools, (firstAlive failure pools).Yields fun result =>
      ∀ error, result = .error error → Unrouted error := by
    intro failure pools
    induction pools generalizing failure with
    -- With no pool left, that failure is the cause.
    | nil =>
      intro error same
      exact .inr ⟨failure, (Except.error.inj same).symm⟩
    | cons pool rest ih =>
      -- Whatever goes wrong with one node, the next one is tried.
      refine (Program.yields_trivial (ping pool)).bind fun pong _ => ?_
      cases pong with
      | error error => exact ih _
      | ok answered => simp [Program.Yields]
  -- The closed flag is looked at before any node is tried.
  intro state choice
  cases (state.perform .isClosed choice).1 with
  | true =>
    intro error same
    exact .inl (Except.error.inj same).symm
  | false => exact fun state order => alive none _

/-- A slot is without an owner to the end only if no node is alive or the client is closed. -/
theorem ownerPool_yields (dispatcher : Dispatcher) (slot : Option Nat) :
    (dispatcher.ownerPool slot).Yields fun result =>
      ∀ error, result = .error error → Unrouted error := by
  cases slot with
  | none => exact fallback_yields
  | some slot =>
    intro state choice
    -- An owner ends the search without an error.
    cases (state.perform (.owner slot) choice).1 with
    | some pool => simp [Program.Yields]
    | none =>
      intro state choice
      -- Without one the number of known nodes decides whether a layout can be asked for.
      simp only [Program.bind_done]
      split
      · exact fallback_yields
      · -- Whatever the rediscovery brings, the slot is looked up once more.
        refine (Program.yields_trivial _).bind fun _ _ state choice => ?_
        cases (state.perform (.owner slot) choice).1 with
        | some pool => simp [Program.Yields]
        | none => exact fallback_yields

/-- An attempt is not even aimed only if no node is alive or the client is closed. -/
theorem aim_yields (dispatcher : Dispatcher) (slot : Option Nat) (route : Route) :
    (dispatcher.aim slot route).Yields fun result =>
      ∀ error, result = .error error → Unrouted error := by
  -- The closed flag comes first here too.
  intro state choice
  cases (state.perform .isClosed choice).1 with
  | true =>
    intro error same
    exact .inl (Except.error.inj same).symm
  | false =>
    -- An open client is aimed by the route of the attempt.
    cases route with
    | owner =>
      refine (ownerPool_yields dispatcher slot).bind fun result unrouted => ?_
      cases result with
      | error error => exact fun _ same => unrouted _ (Except.error.inj same ▸ rfl)
      | ok pool => simp [Program.Yields, Except.map]
    | asking target =>
      intro state choice
      -- A target that is known needs no place in the table.
      cases (state.perform (.lookup target) choice).1 with
      | some pool => simp [Program.Yields, Except.map]
      | none =>
        intro state choice
        -- Only a closed client refuses to register a node.
        cases registered : state.topology.register target with
        | mk answer after =>
          simp only [ClientState.perform, ClientState.withTopology, registered]
          cases answer with
          | error error =>
            intro failure same
            rw [← Except.error.inj same]
            exact .inl (Topology.register_error registered).2.1
          | ok pool => simp [Program.Yields, Except.map]

/-- An attempt is aimed without sending a command. -/
theorem aim_errand (dispatcher : Dispatcher) (slot : Option Nat) (route : Route) :
    (dispatcher.aim slot route).Errand := by
  -- After the look at the flag there is nothing to do, or only the choice of a pool.
  refine .ask rfl rfl fun closed => ?_
  cases closed with
  | true => exact .done _
  | false => exact choose_errand dispatcher slot route

/-- Only a closed client refuses to give slots to a node. -/
theorem assign_error {state : ClientState} {slots : List Nat} {node : Endpoint}
    {error : ClientError} (refused : (state.perform (.assign slots node) ()).1 = .error error) :
    error = .clientClosed := by
  -- A table that takes the slots in gives no error, so what is left is the closed one.
  rcases Topology.assign_cases state.topology slots node with ⟨_, same⟩ | ⟨pool, grown, _, same⟩
  · simp only [ClientState.perform, ClientState.withTopology, same, Except.error.injEq] at refused
    exact refused.symm
  · simp [ClientState.perform, ClientState.withTopology, same] at refused

end RedisCluster.Dispatcher
