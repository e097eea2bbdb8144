import RedisCluster.Network
import RedisCluster.Proofs.Pool.Permits
import RedisCluster.Proofs.Pool.Usage

/-! Connections that a pool considers fit for a request: whatever step is taken, only the caller who takes
it can make one fit, and only the one that it has. -/

namespace RedisCluster

namespace Pool

variable {pool before after : Pool} {ticket other mover : Ticket} {connection : Nat} {broken : Bool}

/-- A connection is fit for a request: it is idle, or a caller has it and has not broken it. -/
def Fit (pool : Pool) (connection : Nat) : Prop :=
  connection ∈ pool.idle ∨ ∃ ticket, pool.stage? ticket = some (.checkedOut connection false)

/-- What a caller has is checked out. -/
theorem mem_checkedOut (held : pool.stage? ticket = some (.checkedOut connection broken)) :
    connection ∈ pool.checkedOut := by
  obtain ⟨front, back, same, _⟩ := List.lookup_eq_some_iff.1 held
  simp [checkedOut, same]

/-- A connection belongs to one caller at most. -/
theorem Sound.ticket_eq (sound : pool.Sound) {spoilt : Bool}
    (mine : pool.stage? ticket = some (.checkedOut connection broken))
    (theirs : pool.stage? other = some (.checkedOut connection spoilt)) : other = ticket := by
  by_cases same : other = ticket
  · exact same
  · -- Without its first owner the connection would still be checked out by the second.
    have left : (pool.evict ticket).stage? other = some (.checkedOut connection spoilt) := by
      rwa [stage?_evict, if_neg same]
    have whole := checkedOut_perm_of_holders (holders_perm sound.holders_distinct mine)
    have twice := whole.nodup (List.nodup_append.1 sound.single).2.1
    simp only [Stage.connection?_checkedOut, Option.toList_some, List.singleton_append,
      List.nodup_cons] at twice
    exact absurd (mem_checkedOut left) twice.1

/-- A connection that its caller has broken is not fit. -/
theorem Sound.not_fit (sound : pool.Sound)
    (held : pool.stage? ticket = some (.checkedOut connection true)) : ¬ pool.Fit connection := by
  rintro (idle | ⟨other, unbroken⟩)
  -- A connection is idle or checked out, and not both.
  · exact (List.nodup_append.1 sound.single).2.2 _ idle _ (mem_checkedOut held) rfl
  -- Its one caller has broken it, and cannot have it unbroken at the same time.
  · rw [sound.ticket_eq held unbroken, held] at unbroken
    cases unbroken

/-- If nothing becomes idle that was not fit, only the caller who moves can come to have a connection
that was not fit. -/
theorem Evolves.fit (evolves : before.Evolves mover after)
    (idle : ∀ connection ∈ after.idle, before.Fit connection) (fit : after.Fit connection) :
    after.stage? mover = some (.checkedOut connection false) ∨ before.Fit connection := by
  rcases fit with ready | ⟨ticket, held⟩
  · exact .inr (idle connection ready)
  · by_cases mine : ticket = mover
    · exact .inl (mine ▸ held)
    · rcases evolves.others ticket mine with same | ⟨_, granted⟩
      -- Another caller has the connection as it had before.
      · exact .inr (.inr ⟨ticket, same ▸ held⟩)
      · simp [granted] at held

/-- Who comes in has no connection yet. -/
theorem fit_enter (fit : pool.enter.2.Fit connection) : pool.Fit connection := by
  rcases pool.enter_cases with ⟨_, refused⟩ | ⟨_, _, queued⟩ | ⟨_, _, admitted⟩
  -- Neither the refusal nor the queue touches a connection.
  · rwa [refused] at fit
  · rw [queued] at fit
    exact fit
  · rw [admitted] at fit
    rcases fit with ready | ⟨ticket, held⟩
    · exact .inl ready
    · refine .inr ⟨ticket, ?_⟩
      have unheld : (pool.holders ++ [(pool.nextTicket, Stage.granted)]).lookup ticket =
          some (.checkedOut connection false) := held
      rw [List.lookup_append] at unheld
      cases old : pool.holders.lookup ticket with
      -- The caller was a holder before, with the same stage.
      | some stage =>
        rw [old] at unheld
        exact old.trans unheld
      | none =>
        -- The newcomer is the only other holder, and has a permit alone.
        rw [old, Option.none_or, List.lookup_cons] at unheld
        split at unheld <;> simp at unheld

/-- Who leaves makes idle only the connection that it had, if that is fit. -/
theorem idle_leave (member : connection ∈ (pool.leave ticket).idle) : pool.Fit connection := by
  cases held : pool.stage? ticket with
  | none =>
    rw [leave_of_waiting held] at member
    exact .inl member
  | some stage =>
    rw [idle_leave_of_holder held] at member
    -- A caller with no connection, or with a broken one, adds nothing to the idle ones.
    rcases stage with _ | _ | ⟨own, _ | _⟩
    · exact .inl member
    · exact .inl member
    · simp only [idleAfter] at member
      split at member
      · exact .inl member
      · rcases List.mem_cons.1 member with rfl | old
        -- The one that is added is its own, which is fit.
        · exact .inr ⟨ticket, held⟩
        · exact .inl old
    · exact .inl member

/-- Who leaves makes no connection fit. -/
theorem Sound.fit_leave (sound : pool.Sound) (fit : (pool.leave ticket).Fit connection) :
    pool.Fit connection := by
  rcases (pool.evolves_leave ticket).fit (fun _ => idle_leave) fit with held | same
  -- The caller has no stage any more, so no connection is its own.
  · exact absurd (mem_tickets_of_stage? held) (sound.not_mem_leave ticket)
  · exact same

/-- Who waits gets no connection by that. -/
theorem Sound.fit_awaitPermit (sound : pool.Sound)
    (fit : (pool.awaitPermit ticket).2.Fit connection) : pool.Fit connection := by
  rcases pool.awaitPermit_cases ticket with ⟨_, granted⟩ | ⟨_, denied⟩
  -- The wait has changed nothing, or else the caller has left.
  · rwa [granted] at fit
  · rw [denied] at fit
    exact sound.fit_leave fit

/-- Who takes an idle connection gets one that is fit. -/
theorem fit_takeIdle (held : pool.stage? ticket = some .granted)
    (fit : (pool.takeIdle ticket).2.Fit connection) : pool.Fit connection := by
  unfold takeIdle at fit
  split at fit
  · rcases (pool.evolves_setStage ticket .opening).fit (fun _ ready => .inl ready) fit with own | same
    -- A caller that opens a connection has none yet.
    · rw [stage?_setStage, if_pos rfl, held] at own
      cases own
    · exact same
  · rename_i first rest stock
    have fewer : ({ pool with idle := rest } : Pool).Fit connection ∨ connection = first := by
      -- The connection is checked out by this caller now, and was first in the stock before.
      rcases (evolves_setStage _ ticket _).fit (fun _ ready => .inl ready) fit with own | same
      · have still : ({ pool with idle := rest } : Pool).stage? ticket = some .granted := held
        rw [stage?_setStage, if_pos rfl, still, Option.map_some] at own
        cases own
        exact .inr rfl
      · exact .inl same
    rcases fewer with (ready | out) | rfl
    -- What was idle or checked out besides was so before.
    · exact .inl (stock ▸ List.mem_cons_of_mem _ ready)
    · exact .inr out
    · exact .inl (stock ▸ List.mem_cons_self)

/-- Who opens a connection gets the next one. -/
theorem fit_opened (held : pool.stage? ticket = some .opening)
    (fit : (pool.opened ticket (.ok ())).Fit connection) :
    connection = pool.nextConnection ∨ pool.Fit connection := by
  rcases (pool.evolves_opened ticket (.ok ())).fit (fun _ ready => .inl ready) fit with own | same
  · rw [stage?_opened held] at own
    cases own
    exact .inl rfl
  · exact .inr same

/-- Only noting that a connection may be reused makes it fit. -/
theorem fit_mark {own : Nat} {was : Bool}
    (held : pool.stage? ticket = some (.checkedOut own was))
    (fit : (pool.mark ticket broken).Fit connection) :
    broken = false ∧ connection = own ∨ pool.Fit connection := by
  -- A mark takes nothing from the stock and puts nothing there.
  have idle : ∀ ready ∈ (pool.mark ticket broken).idle, pool.Fit ready := by
    intro ready member
    simp only [mark, held] at member
    exact .inl member
  rcases (pool.evolves_mark ticket broken).fit idle fit with mine | same
  · rw [stage?_mark held] at mine
    cases mine
    exact .inl ⟨rfl, rfl⟩
  · exact .inr same

/-- Closing a pool makes no connection fit. -/
theorem fit_close (fit : pool.close.Fit connection) : pool.Fit connection := by
  -- The idle connections are dropped, and what is checked out stays as it was.
  unfold close at fit
  split at fit
  · exact fit
  · rcases fit with ready | out
    · cases ready
    · exact .inr out

end Pool

namespace Topology

variable {topology before after : Topology} {id connection : Nat}

/-- A connection of a pool is fit for a request. -/
def Fit (topology : Topology) (id connection : Nat) : Prop :=
  ∃ pool, topology.pool? id = some pool ∧ pool.Fit connection

/-- New pools have no connections. -/
theorem Fit.of_enlarged (fit : after.Fit id connection) (enlarged : Enlarged before after) :
    before.Fit id connection := by
  obtain ⟨pool, found, fit⟩ := fit
  -- A pool that was there is the same, and a new one has neither an idle connection nor a holder.
  cases old : before.pool? id with
  | some known =>
    have same := enlarged.kept id known old
    rw [found, Option.some.injEq] at same
    exact ⟨known, old, same ▸ fit⟩
  | none =>
    obtain ⟨endpoint, rfl⟩ := enlarged.fresh id pool old found
    rcases fit with ready | ⟨ticket, held⟩
    · cases ready
    · cases held

/-- A change of one pool changes nothing about the others. -/
theorem Fit.of_replaced {other : Nat} {changed : Pool} (fit : after.Fit id connection)
    (replaced : Replaced other changed before after) :
    other = id ∧ changed.Fit connection ∨ before.Fit id connection := by
  obtain ⟨known, located, fit⟩ := fit
  rw [replaced] at located
  split at located
  -- It is the pool that was changed, or another one.
  · rename_i same
    exact .inl ⟨same, Option.some.inj located ▸ fit⟩
  · exact .inr ⟨known, located, fit⟩

/-- A change of one pool that makes no connection fit there makes none fit at all. -/
theorem Fit.less {other : Nat} {pool changed : Pool} (fit : after.Fit id connection)
    (found : before.pool? other = some pool) (replaced : Replaced other changed before after)
    (less : changed.Fit connection → pool.Fit connection) : before.Fit id connection := by
  rcases fit.of_replaced replaced with ⟨rfl, here⟩ | there
  · exact ⟨pool, found, less here⟩
  · exact there

/-- Closing a pool makes no connection fit. -/
theorem Fit.of_closePool {other : Nat} (fit : (topology.updatePool other Pool.close).Fit id connection) :
    topology.Fit id connection := by
  obtain ⟨pool, found, fit⟩ := fit
  rw [pool?_updatePool] at found
  split at found
  · obtain ⟨known, located, rfl⟩ := Option.map_eq_some_iff.1 found
    exact ⟨known, located, Pool.fit_close fit⟩
  · exact ⟨pool, found, fit⟩

/-- A reset makes no connection fit. -/
theorem Fit.of_reset (fit : topology.reset.Fit id connection) : topology.Fit id connection := by
  obtain ⟨pool, found, fit⟩ := fit
  rw [pool?_reset] at found
  obtain ⟨known, located, rfl⟩ := Option.map_eq_some_iff.1 found
  refine ⟨known, located, ?_⟩
  split at fit
  · exact Pool.fit_close fit
  · exact fit

/-- A step that concerns no place in a pool makes no connection fit. -/
theorem Fit.of_elsewhere {state : ClientState} {op : Op} {choice : op.Choice}
    (fit : (state.perform op choice).2.topology.Fit id connection) (outside : op.isElsewhere = true) :
    state.topology.Fit id connection := by
  cases closes : op.closes with
  -- Whoever closes nothing adds pools at most.
  | false => exact fit.of_enlarged (.of_elsewhere outside closes state choice)
  | true =>
    cases op with
    | reset => exact fit.of_reset
    | close =>
      -- A client that was closed already is left as it is.
      simp only [ClientState.perform, ClientState.withTopology, Topology.close] at fit
      split at fit
      · exact fit
      · exact Fit.of_reset fit
    | closePool ref => exact fit.of_closePool
    | _ => simp [Op.closes] at closes

end Topology

namespace ClientState

variable {state : ClientState} {ref : PoolRef} {ticket : Ticket} {pool : Pool} {id connection : Nat}

/-- The connection at a place is the one that its caller has checked out. -/
theorem connection?_eq_some_iff (found : state.topology.pool? ref.id = some pool) :
    state.connection? (ref, ticket) = some connection ↔
      ∃ broken, pool.stage? ticket = some (.checkedOut connection broken) := by
  simp only [connection?, found, Option.bind_some]
  constructor
  · intro same
    -- Whether the connection is broken makes no difference to which one it is.
    split at same
    · rename_i own broken held
      exact ⟨broken, Option.some.inj same ▸ held⟩
    · cases same
  · rintro ⟨broken, held⟩
    rw [held]

/-- A pool that is changed is found as it is then. -/
theorem pool?_changePool (found : state.topology.pool? ref.id = some pool) (change : Pool → Pool) :
    (state.changePool ref change).topology.pool? ref.id = some (change pool) := by
  rw [changePool_replaced found, if_pos rfl]

/-- A step that one pool answers makes no connection fit if it makes none fit there. -/
theorem fit_onPool {α : Type} {missing : α} {step : Pool → α × Pool}
    (fit : (state.onPool ref missing step).2.topology.Fit id connection)
    (less : ∀ pool, state.topology.pool? ref.id = some pool → (step pool).2.Fit connection →
      pool.Fit connection) : state.topology.Fit id connection := by
  cases found : state.topology.pool? ref.id with
  | none =>
    -- A pool that was never made is not changed.
    simp only [onPool, found] at fit
    exact fit
  | some pool =>
    rw [onPool_eq found] at fit
    exact fit.less found (withPool_replaced found _) (less pool found)

/-- A change of one pool makes no connection fit if it makes none fit there. -/
theorem fit_changePool {change : Pool → Pool}
    (fit : (state.changePool ref change).topology.Fit id connection)
    (found : state.topology.pool? ref.id = some pool)
    (less : (change pool).Fit connection → pool.Fit connection) :
    state.topology.Fit id connection :=
  fit.less found (changePool_replaced found change) less

end ClientState

namespace Housed

variable {state : ClientState} {phase : Nat → Phase} {task id connection : Nat}

/-- Only the wire that a step is about can become fit by it, if the caller does not have to leave. -/
theorem fit_perform (housed : Housed state.topology phase) {op : Op} {choice : op.Choice}
    {next : Phase} (leads : (phase task).Leads op (state.perform op choice).1 next)
    (fit : (state.perform op choice).2.topology.Fit id connection) :
    state.wire? op = some (id, connection) ∧ next ≠ .away ∨ state.topology.Fit id connection := by
  -- The cases need a phase and an answer that are variables.
  generalize here : phase task = current at leads
  generalize given : (state.perform op choice).1 = answer at leads
  cases leads with
  | elsewhere outside => exact .inr (fit.of_elsewhere outside)
  | entered ref ticket => exact .inr (ClientState.fit_onPool fit fun pool _ => Pool.fit_enter)
  | refused ref error => exact .inr (ClientState.fit_onPool fit fun pool _ => Pool.fit_enter)
  | admitted ref ticket =>
    -- To wait, and to take what is idle, makes nothing fit in the pool where it is done.
    exact .inr (ClientState.fit_onPool fit fun pool found =>
      (housed.sound _ _ found).fit_awaitPermit)
  | denied ref ticket error =>
    exact .inr (ClientState.fit_onPool fit fun pool found =>
      (housed.sound _ _ found).fit_awaitPermit)
  | reused ref ticket =>
    obtain ⟨pool, found, _, held⟩ := housed.fits _ _ _ _ here
    refine .inr (ClientState.fit_onPool fit fun known located => ?_)
    rw [found, Option.some.injEq] at located
    exact located ▸ Pool.fit_takeIdle held
  | opening ref ticket =>
    obtain ⟨pool, found, _, held⟩ := housed.fits _ _ _ _ here
    refine .inr (ClientState.fit_onPool fit fun known located => ?_)
    rw [found, Option.some.injEq] at located
    exact located ▸ Pool.fit_takeIdle held
  | opened ref ticket =>
    obtain rfl : choice = .ok () := given
    obtain ⟨pool, found, _, held⟩ := housed.fits _ _ _ _ here
    -- The connection that was opened is the next one of its pool.
    rcases fit.of_replaced (ClientState.changePool_replaced found _) with ⟨rfl, new⟩ | old
    · rcases Pool.fit_opened held new with rfl | fit
      -- Only the new connection is fit now and was not before.
      · exact .inl ⟨by simp [ClientState.wire?, found], nofun⟩
      · exact .inr ⟨pool, found, fit⟩
    · exact .inr old
  | failed ref ticket error =>
    obtain rfl : choice = .error error := given
    obtain ⟨pool, found, _, _⟩ := housed.fits _ _ _ _ here
    exact .inr (ClientState.fit_changePool fit found (housed.sound _ _ found).fit_leave)
  | sent ref ticket request =>
    obtain ⟨pool, found, _, ⟨own, was, held⟩⟩ := housed.fits _ _ _ _ here
    -- A request that is sent breaks the connection for the time being.
    refine .inr (ClientState.fit_changePool fit found fun fit => ?_)
    exact (Pool.fit_mark held fit).resolve_left nofun
  | answered ref ticket request answer =>
    obtain ⟨pool, found, _, ⟨own, was, held⟩⟩ := housed.fits _ _ _ _ here
    rcases fit.of_replaced (ClientState.changePool_replaced found _) with ⟨rfl, mine⟩ | old
    -- The answer makes the caller's own connection fit again, if it is not broken.
    · rcases Pool.fit_mark held mine with ⟨_, rfl⟩ | fit
      · have connected := (ClientState.connection?_eq_some_iff found).2 ⟨was, held⟩
        exact .inl ⟨by simp [ClientState.wire?, connected], nofun⟩
      · exact .inr ⟨pool, found, fit⟩
    · exact .inr old
  | left ref ticket stay =>
    obtain ⟨pool, found, _, _⟩ := housed.fits _ _ _ _ here
    -- Who leaves puts back a fit connection, or none.
    exact .inr (ClientState.fit_changePool fit found (housed.sound _ _ found).fit_leave)

variable {op : Op} {ref : PoolRef} {ticket : Ticket} {stay : Stay} {next : Phase}

/-- A connection that its caller has broken is not fit. -/
theorem not_fit (housed : Housed state.topology phase)
    (staged : state.topology.Staged id ticket (.checkedOut connection true)) :
    ¬ state.topology.Fit id connection := by
  obtain ⟨pool, found, held⟩ := staged
  intro ⟨known, located, fit⟩
  rw [found, Option.some.injEq] at located
  subst located
  exact (housed.sound _ _ found).not_fit held fit

/-- A step of one caller leaves the others at their stages. -/
theorem staged_perform (housed : Housed state.topology phase) {choice : op.Choice}
    (leads : (phase task).Leads op (state.perform op choice).1 next) {other : Nat}
    (elsewhere : other ≠ task) (inside : phase other = .inside ref ticket stay) {stage : Stage}
    (staged : state.topology.Staged ref.id ticket stage) :
    (state.perform op choice).2.topology.Staged ref.id ticket stage := by
  refine ClientState.staged_perform staged housed.sound op choice fun there own about same => ?_
  -- A step about this very place could be taken by its owner only.
  rintro rfl
  obtain ⟨_, mine⟩ := leads.exists_stay about
  exact elsewhere (housed.apart _ _ _ _ _ _ _ inside mine same.symm)

/-- The wire of a caller is opened or asked for by nobody else. -/
theorem wire_apart (housed : Housed state.topology phase) {answer : op.Answer}
    (leads : (phase task).Leads op answer next) {other : Nat}
    (inside : phase other = .inside ref ticket stay) {broken : Bool}
    (staged : state.topology.Staged ref.id ticket (.checkedOut connection broken))
    (about : state.wire? op = some (ref.id, connection)) : other = task := by
  obtain ⟨pool, found, held⟩ := staged
  have sound := housed.sound _ _ found
  unfold ClientState.wire? at about
  split at about
  · -- A wire that is yet to be opened is nobody's.
    rename_i there own
    obtain ⟨known, located, same⟩ := Option.map_eq_some_iff.1 about
    obtain ⟨ids, new⟩ := Prod.mk.inj same
    rw [ids, found, Option.some.injEq] at located
    subst located
    have opened := sound.numbered connection (List.mem_append_right _ (Pool.mem_checkedOut held))
    omega
  -- A wire that is asked for belongs to whoever asks.
  · rename_i there own request
    obtain ⟨number, connected, same⟩ := Option.map_eq_some_iff.1 about
    obtain ⟨ids, rfl⟩ := Prod.mk.inj same
    obtain ⟨_, mine⟩ := leads.exists_stay rfl
    -- Whoever asks has the connection, and there is only one who has it.
    obtain ⟨spoilt, theirs⟩ := (ClientState.connection?_eq_some_iff (ids ▸ found)).1 connected
    obtain rfl := sound.ticket_eq held theirs
    exact housed.apart _ _ _ _ _ _ _ inside mine ids.symm
  -- No other step is about a wire.
  · cases about

/-- A caller that leaves its pool makes no connection fit. -/
theorem fit_vacate (housed : Housed state.topology phase)
    (fit : (state.topology.vacate (phase task)).Fit id connection) :
    state.topology.Fit id connection := by
  cases here : phase task with
  | away => rwa [here] at fit
  | inside there own stay =>
    rw [here] at fit
    have leads : (phase task).Leads (.leave there own)
        (state.perform (.leave there own) ()).1 .away := here ▸ .left there own stay
    -- Only the step's own wire could be fit now, and nobody is there to have it.
    exact (housed.fit_perform leads fit).resolve_left fun about => absurd rfl about.2

/-- A caller that leaves its pool leaves the others at their stages. -/
theorem staged_vacate (housed : Housed state.topology phase) {other : Nat} (elsewhere : other ≠ task)
    (inside : phase other = .inside ref ticket stay) {stage : Stage}
    (staged : state.topology.Staged ref.id ticket stage) :
    (state.topology.vacate (phase task)).Staged ref.id ticket stage := by
  cases here : phase task with
  | away => exact staged
  | inside there own stay =>
    have leads : (phase task).Leads (.leave there own)
        (state.perform (.leave there own) ()).1 .away := here ▸ .left there own stay
    -- To be cut short is to leave, as far as the others are concerned.
    exact housed.staged_perform leads elsewhere inside staged

end Housed

end RedisCluster
