import RedisCluster.Proofs.Pool.Permits
import RedisCluster.Proofs.Pool.Fitness
import RedisCluster.Proofs.Program.Midway

/-! A caller that makes several requests on its connection: the last of them alone decides whether
the connection is put back. -/

namespace RedisCluster

/-- One use of a connection: a request, and whether its caller waits for the answer. -/
structure Use where
  request : Request
  awaited : Bool

/-- What came of a request that was sent: its caller gave up waiting, or it got an answer. -/
inductive Upshot where
  | cancelled
  | answered (answer : Except ClientError Frame)

/-- A request after which a connection may not be reused. -/
def Upshot.spoils : Upshot → Bool
  | cancelled => true
  | answered answer => Pool.breaks answer

namespace Program

/-- Sends a request, and waits for the answer unless the request is cancelled. -/
def use (lease : Lease) (use : Use) : Program Upshot :=
  -- The answer is waited for, and is what came of it.
  if use.awaited then bind (request lease use.request) fun answer => done (.answered answer)
  -- The caller gives up once the request is sent.
  else ask (.send lease use.request) fun _ => done .cancelled

/-- Uses one connection again and again. -/
def useAll (lease : Lease) : List Use → Program (List Upshot)
  | [] => done []
  | first :: rest =>
    bind (use lease first) fun upshot =>
      bind (useAll lease rest) fun upshots => done (upshot :: upshots)

end Program

/-- The books of all pools balance. -/
def Topology.Sound (topology : Topology) : Prop :=
  ∀ id pool, topology.pool? id = some pool → pool.Sound

namespace ClientState

/-- Others take any number of steps about other places than this one, and keep the books of all
pools in balance. -/
inductive Beside (ref : PoolRef) (ticket : Ticket) : ClientState → ClientState → Prop where
  | refl (state : ClientState) : Beside ref ticket state state
  | step {state after : ClientState} (op : Op) (choice : op.Choice)
      (apart : ∀ there other, op.place? = some (there, other) → there.id = ref.id → ticket ≠ other)
      (sound : (state.perform op choice).2.topology.Sound)
      (beside : Beside ref ticket (state.perform op choice).2 after) : Beside ref ticket state after

/-- The books of all pools balance, and a caller has a connection, which it has broken or not. -/
structure Lends (state : ClientState) (ref : PoolRef) (ticket : Ticket) (connection : Nat)
    (broken : Bool) : Prop where
  sound : state.topology.Sound
  staged : state.topology.Staged ref.id ticket (.checkedOut connection broken)

namespace Lends

variable {state after last : ClientState} {ref : PoolRef} {ticket : Ticket} {connection : Nat}
  {broken : Bool} {trace : Trace}

/-- Nothing that others do concerns a connection that is lent. -/
theorem beside (lends : state.Lends ref ticket connection broken)
    (others : Beside ref ticket state after) : after.Lends ref ticket connection broken := by
  -- Others take their steps one at a time, and none of them moves this caller.
  induction others with
  | refl state => exact lends
  | step op choice apart sound _ ih =>
    exact ih ⟨sound, staged_perform lends.staged lends.sound op choice apart⟩

/-- A caller notes whether its connection may be reused, whatever it has noted before. -/
theorem mark (lends : state.Lends ref ticket connection broken) (next : Bool) :
    (state.mark (.pooled ref ticket) next).Lends ref ticket connection next := by
  obtain ⟨sound, pool, found, held⟩ := lends
  refine ⟨fun id known located => ?_, pool.mark ticket next, pool?_changePool found _,
    Pool.stage?_mark held next⟩
  -- The books of this pool still balance, and the other pools are as they were.
  have replaced := changePool_replaced found (·.mark ticket next) id
  simp only [ClientState.mark, replaced] at located
  split at located
  · rw [← Option.some.inj located]
    exact (sound _ _ found).mark ticket next
  · exact sound id known located

/-- A request leaves a note about the connection that depends on what came of it alone. -/
theorem use {use : Use} {upshot : Upshot} (lends : state.Lends ref ticket connection broken)
    (run : Program.Amid (Beside ref ticket) (Program.use (.pooled ref ticket) use) state trace upshot
      last) : last.Lends ref ticket connection upshot.spoils := by
  unfold Program.use at run
  split at run
  · -- The answer overwrites the note that was made when the request was sent.
    obtain ⟨_, _, _, _, rfl, made, ended⟩ := Program.amid_bind_iff.1 run
    obtain ⟨sending, _, _, meanwhile, rfl, sent⟩ := Program.amid_ask_iff.1 made
    obtain ⟨waiting, answer, _, later, rfl, heard⟩ := Program.amid_ask_iff.1 sent
    obtain ⟨rfl, rfl, rfl⟩ := Program.amid_done_iff.1 heard
    obtain ⟨rfl, rfl, rfl⟩ := Program.amid_done_iff.1 ended
    -- Sent, the connection is noted as broken. The answer says whether it stays so.
    exact (((lends.beside meanwhile).mark true).beside later).mark _
  · obtain ⟨sending, _, _, meanwhile, rfl, sent⟩ := Program.amid_ask_iff.1 run
    obtain ⟨rfl, rfl, rfl⟩ := Program.amid_done_iff.1 sent
    -- Nobody waits for the answer, so the note of the sending stands.
    exact (lends.beside meanwhile).mark true

/-- After some requests the note is that of the last one. -/
theorem useAll {uses : List Use} {upshots : List Upshot}
    (lends : state.Lends ref ticket connection broken)
    (run : Program.Amid (Beside ref ticket) (Program.useAll (.pooled ref ticket) uses) state trace
      upshots last) :
    last.Lends ref ticket connection (upshots.getLast?.elim broken Upshot.spoils) := by
  -- The induction is on the requests that are still to come, from any note.
  induction uses generalizing state broken trace upshots with
  | nil =>
    obtain ⟨rfl, rfl, rfl⟩ := Program.amid_done_iff.1 run
    exact lends
  | cons first rest ih =>
    obtain ⟨_, _, upshot, middle, rfl, begun, onward⟩ := Program.amid_bind_iff.1 run
    obtain ⟨_, _, others, _, rfl, later, ended⟩ := Program.amid_bind_iff.1 onward
    obtain ⟨rfl, rfl, rfl⟩ := Program.amid_done_iff.1 ended
    have noted := ih (lends.use begun) later
    -- What the first request left counts only if there was no other.
    rw [List.getLast?_cons]
    cases ending : others.getLast? with
    | none => simpa [ending] using noted
    | some final => simpa [ending] using noted

/-- A caller that leaves puts its connection back, which was not idle before, unless it has broken
it or the pool is closed. -/
theorem leave (lends : state.Lends ref ticket connection broken) :
    ∃ pool after, state.topology.pool? ref.id = some pool ∧
      (state.perform (.leave ref ticket) ()).2.topology.pool? ref.id = some after ∧
      connection ∉ pool.idle ∧
      after.idle = if pool.closed || broken then pool.idle else connection :: pool.idle := by
  obtain ⟨sound, pool, found, held⟩ := lends
  refine ⟨pool, pool.leave ticket, found, pool?_changePool found _, fun idle => ?_, ?_⟩
  · -- A connection is idle or checked out.
    exact (List.nodup_append.1 (sound _ _ found).single).2.2 _ idle _ (Pool.mem_checkedOut held) rfl
  -- What is put back depends on the note and on whether the pool is open.
  · rw [Pool.idle_leave_of_holder held]
    cases broken <;> simp [Pool.idleAfter]

end Lends

/-- Whatever a caller has done with its connection, and whatever others do meanwhile: when it leaves,
the connection is put back once if the pool is open and the last request, if there was one, was not
cancelled and did not break it; otherwise it is not put back. What came of the earlier requests
makes no difference. -/
theorem put_back_by_last_request {state middle before : ClientState} {ref : PoolRef}
    {ticket : Ticket} {connection : Nat} {uses : List Use} {upshots : List Upshot} {trace : Trace}
    (lends : state.Lends ref ticket connection false)
    (run : Program.Amid (Beside ref ticket) (Program.useAll (.pooled ref ticket) uses) state trace
      upshots middle)
    (others : Beside ref ticket middle before) :
    ∃ pool after, before.topology.pool? ref.id = some pool ∧
      (before.perform (.leave ref ticket) ()).2.topology.pool? ref.id = some after ∧
      connection ∉ pool.idle ∧
      after.idle =
        if pool.closed || upshots.getLast?.any Upshot.spoils then pool.idle
        else connection :: pool.idle := by
  have left := ((lends.useAll run).beside others).leave
  -- Without any request the caller leaves an unbroken connection behind.
  cases ending : upshots.getLast? with
  | none => simpa [ending] using left
  | some final => simpa [ending] using left

/-- A pool that has opened a connection for its only caller. -/
def lender : Pool :=
  ((Pool.new ⟨"127.0.0.1", 7000⟩ {}).enter.2.takeIdle 0).2.opened 0 (.ok ())

/-- The state in which this caller has its connection. -/
def lending : ClientState :=
  { topology := { config := {}, pools := #[lender] } }

/-- The connection is lent to this caller. -/
theorem lends_lending : lending.Lends ⟨0, ⟨"127.0.0.1", 7000⟩⟩ 0 0 false := by
  refine ⟨fun id pool found => ?_, lender, rfl, rfl⟩
  -- There is no other pool.
  have same : lender = pool := by
    cases id with
    | zero => exact Option.some.inj found
    | succ id => cases found
  rw [← same]
  -- The pool was entered, found nothing idle and opened a connection.
  exact ((Pool.new_sound _ _).enter.takeIdle rfl).opened rfl _

/-- The caller uses its connection, which a ping breaks, while nobody else does anything. -/
def handling (uses : List Use) : List Upshot × ClientState × Trace :=
  Program.play (Op.surroundings (fun _ => .ok ()) fun _ request =>
      -- A ping fails, and every other request is answered with `OK`.
      match request with
      | .ping => .error (.io "broken pipe")
      | _ => .ok .ok)
    (Program.useAll (.pooled ⟨0, ⟨"127.0.0.1", 7000⟩⟩ 0) uses) lending

/-- The idle connections of the pool once the caller has left. -/
def idleAfterHandling (uses : List Use) : Option (List Nat) :=
  (((handling uses).2.1.perform (.leave ⟨0, ⟨"127.0.0.1", 7000⟩⟩ 0) ()).2.topology.pool? 0).map
    Pool.idle

/-- The uses are a run that nobody disturbs. -/
theorem beside_handling (uses : List Use) :
    Program.Amid (Beside ⟨0, ⟨"127.0.0.1", 7000⟩⟩ 0)
      (Program.useAll (.pooled ⟨0, ⟨"127.0.0.1", 7000⟩⟩ 0) uses) lending (handling uses).2.2
      (handling uses).1 (handling uses).2.1 :=
  Program.Amid.mono (Program.alone_play _ _ _) fun state _ same => same ▸ .refl state

/-- A connection is put back if the ping that broke it was not the last request. -/
theorem put_back_by_last_request_of_ping :
    idleAfterHandling [⟨.layout, true⟩, ⟨.ping, true⟩] = some [] ∧
      idleAfterHandling [⟨.ping, true⟩, ⟨.layout, true⟩] = some [0] := by
  have left := fun uses =>
    -- Either order of the two requests is a case of the general statement.
    put_back_by_last_request lends_lending (beside_handling uses) (.refl (handling uses).2.1)
  constructor
  · obtain ⟨pool, after, found, here, -, idle⟩ := left [⟨.layout, true⟩, ⟨.ping, true⟩]
    have empty : some [] = some pool.idle := congrArg (Option.map Pool.idle) found
    have last : (handling [⟨.layout, true⟩, ⟨.ping, true⟩]).1.getLast?.any Upshot.spoils := rfl
    rw [last, Bool.or_true, if_pos rfl, ← Option.some.inj empty] at idle
    rw [idleAfterHandling, here, Option.map_some, idle]
  · obtain ⟨pool, after, found, here, -, idle⟩ := left [⟨.ping, true⟩, ⟨.layout, true⟩]
    have empty : some [] = some pool.idle := congrArg (Option.map Pool.idle) found
    have accepting : some false = some pool.closed := congrArg (Option.map Pool.closed) found
    have last : ¬ (handling [⟨.ping, true⟩, ⟨.layout, true⟩]).1.getLast?.any Upshot.spoils := nofun
    rw [← Option.some.inj accepting, ← Option.some.inj empty, Bool.false_or, if_neg last] at idle
    rw [idleAfterHandling, here, Option.map_some, idle]

/-- After a request that failed and one that was cancelled, a reply has the connection put back. -/
theorem put_back_after_failure :
    ∃ uses, (handling uses).1 =
        [.answered (.error (.io "broken pipe")), .cancelled, .answered (.ok .ok)] ∧
      idleAfterHandling uses = some [0] :=
  ⟨[⟨.ping, true⟩, ⟨.asking, false⟩, ⟨.layout, true⟩], rfl, rfl⟩

end ClientState

end RedisCluster
