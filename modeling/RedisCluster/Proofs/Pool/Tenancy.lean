import RedisCluster.Proofs.Pool.Renewal

/-! The pools and their callers agree on who is inside, whichever caller takes the next step. -/

namespace RedisCluster

/-- What a pool knows about a caller is what the caller expects; who waits may have its permit. -/
def Stay.Matches : Stay → Option Stage → Prop
  | waiting, reached => reached = none ∨ reached = some .granted
  | admitted, reached => reached = some .granted
  | opening, reached => reached = some .opening
  | connected, reached => ∃ connection broken, reached = some (.checkedOut connection broken)

/-- A caller's expectation stands whatever others do. -/
theorem Stay.Matches.of_evolves {stay : Stay} {before after : Pool} {mover ticket : Ticket}
    (fits : stay.Matches (before.stage? ticket)) (evolves : before.Evolves mover after)
    (apart : ticket ≠ mover) : stay.Matches (after.stage? ticket) := by
  rcases evolves.others ticket apart with same | ⟨waited, granted⟩
  -- Where the stage is the same, the expectation is met as before.
  · rwa [same]
  · -- Only who waits has no stage, and may well find itself with a permit.
    cases stay with
    | waiting => exact .inr granted
    | admitted => simp [Matches, waited] at fits
    | opening => simp [Matches, waited] at fits
    | connected => simp [Matches, waited] at fits

/-- Everyone's place once one caller has moved on. -/
def settle (phase : Nat → Phase) (task : Nat) (next : Phase) : Nat → Phase :=
  -- Only the task that has moved is looked up anew.
  fun other => if other = task then next else phase other

@[simp] theorem settle_same (phase : Nat → Phase) (task : Nat) (next : Phase) :
    settle phase task next task = next :=
  if_pos rfl

theorem settle_other (phase : Nat → Phase) {task other : Nat} (next : Phase)
    (apart : other ≠ task) : settle phase task next other = phase other :=
  if_neg apart

/-- The table once a caller has left the pool that it is in. -/
def Topology.vacate (topology : Topology) : Phase → Topology
  | .away => topology
  | .inside ref ticket _ => topology.updatePool ref.id (·.leave ticket)

/-- The books of all pools balance, and the callers inside are those who believe to be there. -/
structure Housed (topology : Topology) (phase : Nat → Phase) : Prop where
  sound : ∀ id pool, topology.pool? id = some pool → pool.Sound
  /-- Every caller is where its own answers put it. -/
  fits : ∀ task ref ticket stay, phase task = .inside ref ticket stay →
    ∃ pool, topology.pool? ref.id = some pool ∧ ticket < pool.nextTicket ∧
      stay.Matches (pool.stage? ticket)
  /-- No two callers share a place. -/
  apart : ∀ first second here there ticket stay other, phase first = .inside here ticket stay →
    phase second = .inside there ticket other → here.id = there.id → first = second
  /-- Nobody else is inside. -/
  tenanted : ∀ id pool ticket, topology.pool? id = some pool → ticket ∈ pool.tickets →
    ∃ task ref stay, phase task = .inside ref ticket stay ∧ ref.id = id

/-- One pool has changed, and the others have not. -/
def Replaced (id : Nat) (pool : Pool) (before after : Topology) : Prop :=
  ∀ other, after.pool? other = if id = other then some pool else before.pool? other

/-- One pool takes a step on behalf of one caller, which comes in, moves on or leaves. -/
structure Movement (topology after : Topology) (phase : Nat → Phase) (task : Nat) (next : Phase)
    (ref : PoolRef) (mover : Ticket) (pool changed : Pool) : Prop where
  found : topology.pool? ref.id = some pool
  replaced : Replaced ref.id changed topology after
  sound : changed.Sound
  evolves : pool.Evolves mover changed
  /-- The caller comes from outside or has its place already. -/
  place : (phase task = .away ∧ mover = pool.nextTicket) ∨
    ∃ stay, phase task = .inside ref mover stay
  /-- The caller is gone or still has its place. -/
  arrived : (next = .away ∧ mover ∉ changed.tickets) ∨
    ∃ stay, next = .inside ref mover stay ∧ mover < changed.nextTicket ∧
      stay.Matches (changed.stage? mover)

namespace Movement

variable {topology after : Topology} {phase : Nat → Phase} {task : Nat} {next : Phase}
  {ref : PoolRef} {mover : Ticket} {pool changed : Pool}

/-- The place of the mover is nobody else's. -/
theorem alone (movement : Movement topology after phase task next ref mover pool changed)
    (housed : Housed topology phase) {other : Nat} {there : PoolRef} {stay : Stay}
    (elsewhere : other ≠ task) (inside : phase other = .inside there mover stay) :
    there.id ≠ ref.id := by
  intro same
  rcases movement.place with ⟨_, fresh⟩ | ⟨mine, here⟩
  · -- A ticket that has not been given out is nobody's.
    obtain ⟨known, located, issued, _⟩ := housed.fits _ _ _ _ inside
    -- The pool is the same, so the ticket would already be issued there.
    rw [same, movement.found, Option.some.injEq] at located
    rw [fresh, ← located] at issued
    exact Nat.lt_irrefl _ issued
  -- A ticket that the mover had before is its own.
  · exact elsewhere (housed.apart _ _ _ _ _ _ _ inside here same)

/-- The mover was at its own place only. -/
theorem place_eq (movement : Movement topology after phase task next ref mover pool changed)
    {there : PoolRef} {ticket : Ticket} {stay : Stay}
    (inside : phase task = .inside there ticket stay) : there = ref ∧ ticket = mover := by
  rcases movement.place with ⟨outside, _⟩ | ⟨mine, here⟩
  · simp [outside] at inside
  -- Its place is read off from where it was.
  · rw [here, Phase.inside.injEq] at inside
    exact ⟨inside.1.symm, inside.2.1.symm⟩

/-- The mover arrives at its own place only. -/
theorem next_eq (movement : Movement topology after phase task next ref mover pool changed)
    {there : PoolRef} {ticket : Ticket} {stay : Stay}
    (inside : next = .inside there ticket stay) :
    there = ref ∧ ticket = mover ∧ mover < changed.nextTicket ∧
      stay.Matches (changed.stage? mover) := by
  rcases movement.arrived with ⟨gone, _⟩ | ⟨mine, here, issued, fits⟩
  -- A caller that is gone arrives nowhere.
  · simp [gone] at inside
  · rw [here, Phase.inside.injEq] at inside
    obtain ⟨rfl, rfl, rfl⟩ := inside
    exact ⟨rfl, rfl, issued, fits⟩

/-- After a movement every caller is where its own answers put it. -/
theorem fits (movement : Movement topology after phase task next ref mover pool changed)
    (housed : Housed topology phase) {other : Nat} {there : PoolRef} {ticket : Ticket} {stay : Stay}
    (inside : settle phase task next other = .inside there ticket stay) :
    ∃ pool, after.pool? there.id = some pool ∧ ticket < pool.nextTicket ∧
      stay.Matches (pool.stage? ticket) := by
  by_cases mine : other = task
  · rw [mine, settle_same] at inside
    -- The mover itself stands where it has arrived.
    obtain ⟨rfl, rfl, issued, fits⟩ := movement.next_eq inside
    exact ⟨changed, by rw [movement.replaced, if_pos rfl], issued, fits⟩
  · rw [settle_other _ _ mine] at inside
    obtain ⟨current, located, issued, fits⟩ := housed.fits _ _ _ _ inside
    by_cases same : ref.id = there.id
    · -- A neighbour of the mover has another ticket.
      have moved : ticket ≠ mover := by
        rintro rfl
        exact movement.alone housed mine inside same.symm
      rw [← same, movement.found, Option.some.injEq] at located
      subst located
      exact ⟨changed, by rw [movement.replaced, if_pos same],
        Nat.lt_of_lt_of_le issued movement.evolves.issued, fits.of_evolves movement.evolves moved⟩
    -- In another pool nothing has happened.
    · exact ⟨current, by rw [movement.replaced, if_neg same, located], issued, fits⟩

/-- After a movement no two callers share a place. -/
theorem apart (movement : Movement topology after phase task next ref mover pool changed)
    (housed : Housed topology phase) {first second : Nat} {here there : PoolRef} {ticket : Ticket}
    {stay other : Stay} (one : settle phase task next first = .inside here ticket stay)
    (two : settle phase task next second = .inside there ticket other)
    (same : here.id = there.id) : first = second := by
  -- At most one of the two is the caller that moved.
  by_cases firstMoved : first = task
  · by_cases secondMoved : second = task
    · exact firstMoved.trans secondMoved.symm
    -- The mover is where it arrived, and the other one would be in its place.
    · rw [firstMoved, settle_same] at one
      rw [settle_other _ _ secondMoved] at two
      obtain ⟨rfl, rfl, _⟩ := movement.next_eq one
      exact absurd same.symm (movement.alone housed secondMoved two)
  · rw [settle_other _ _ firstMoved] at one
    by_cases secondMoved : second = task
    · rw [secondMoved, settle_same] at two
      obtain ⟨rfl, rfl, _⟩ := movement.next_eq two
      exact absurd same (movement.alone housed firstMoved one)
    -- Neither has moved, so they did not share a place before either.
    · rw [settle_other _ _ secondMoved] at two
      exact housed.apart _ _ _ _ _ _ _ one two same

/-- After a movement nobody is inside but the callers. -/
theorem tenanted (movement : Movement topology after phase task next ref mover pool changed)
    (housed : Housed topology phase) {id : Nat} {current : Pool} {ticket : Ticket}
    (located : after.pool? id = some current) (member : ticket ∈ current.tickets) :
    ∃ other there stay, settle phase task next other = .inside there ticket stay ∧
      there.id = id := by
  rw [movement.replaced] at located
  split at located
  · -- In the pool that changed everybody but the mover was inside before.
    rename_i same
    rw [← Option.some.inj located] at member
    by_cases mine : ticket = mover
    · rcases movement.arrived with ⟨_, left⟩ | ⟨stay, here, _, _⟩
      -- Had the mover left, its ticket would be gone.
      · exact absurd member (mine ▸ left)
      · exact ⟨task, ref, stay, by rw [settle_same, here, mine], same⟩
    -- Everyone else inside was there before, as some other task.
    · obtain ⟨other, there, stay, inside, ids⟩ :=
        housed.tenanted _ _ _ movement.found (movement.evolves.inside ticket member mine)
      have moved : other ≠ task := by
        rintro rfl
        exact mine (movement.place_eq inside).2
      exact ⟨other, there, stay, by rw [settle_other _ _ moved, inside], ids.trans same⟩
  · rename_i elsewhere
    -- In a pool that was not touched the callers are those of before.
    obtain ⟨other, there, stay, inside, ids⟩ := housed.tenanted _ _ _ located member
    have moved : other ≠ task := by
      rintro rfl
      exact elsewhere ((movement.place_eq inside).1 ▸ ids)
    exact ⟨other, there, stay, by rw [settle_other _ _ moved, inside], ids⟩

/-- One pool's step on behalf of one caller keeps everyone housed. -/
theorem housed (movement : Movement topology after phase task next ref mover pool changed)
    (before : Housed topology phase) : Housed after (settle phase task next) where
  sound id current located := by
    rw [movement.replaced] at located
    -- The pool that changed is sound by the movement itself.
    split at located
    · rw [← Option.some.inj located]
      exact movement.sound
    · exact before.sound id current located
  fits _ _ _ _ inside := movement.fits before inside
  apart _ _ _ _ _ _ _ one two same := movement.apart before one two same
  tenanted _ _ _ located member := movement.tenanted before located member

end Movement

/-- A renewal of the pools leaves every caller where it is. -/
theorem Housed.renew {topology after : Topology} {phase : Nat → Phase}
    (housed : Housed topology phase) (renewed : Renewed topology after) : Housed after phase where
  sound id pool found := by
    cases before : topology.pool? id with
    | none => exact (renewed.fresh id pool before found).1
    -- A pool that was there before is the same, or closed now.
    | some old =>
      have sound := housed.sound id old before
      rcases renewed.kept id old before with same | shut
      · rw [same, Option.some.injEq] at found
        exact found ▸ sound
      · rw [shut, Option.some.injEq] at found
        exact found ▸ sound.close
  fits task ref ticket stay inside := by
    obtain ⟨pool, found, issued, fits⟩ := housed.fits task ref ticket stay inside
    rcases renewed.kept ref.id pool found with same | shut
    · exact ⟨pool, same, issued, fits⟩
    · -- Closing a pool is nobody's movement, so the caller is one of the others.
      have evolves := pool.evolves_close (ticket + 1)
      exact ⟨pool.close, shut, Nat.lt_of_lt_of_le issued evolves.issued,
        fits.of_evolves evolves (by simp)⟩
  apart := housed.apart
  tenanted id pool ticket found member := by
    cases before : topology.pool? id with
    -- A new pool has nobody in it.
    | none => simp [(renewed.fresh id pool before found).2] at member
    | some old =>
      rcases renewed.kept id old before with same | shut
      · rw [same, Option.some.injEq] at found
        exact housed.tenanted id old ticket before (found ▸ member)
      · rw [shut, Option.some.injEq] at found
        -- Nobody comes in by the closing.
        subst found
        exact housed.tenanted id old ticket before
          ((old.evolves_close (ticket + 1)).inside ticket member (by simp))

/-- A caller that stays where it is changes nobody's place. -/
theorem settle_self (phase : Nat → Phase) (task : Nat) : settle phase task (phase task) = phase := by
  funext other
  -- The task's own place is put where it was.
  by_cases same : other = task
  · rw [same, settle_same]
  · rw [settle_other _ _ same]

namespace Pool

variable {pool : Pool} {ticket : Ticket}

/-- A caller that is let in has the next ticket, and waits or has a permit at once. -/
theorem Sound.arrival (sound : pool.Sound) (entered : pool.enter.1 = .ok ticket) :
    ticket = pool.nextTicket ∧ ticket < pool.enter.2.nextTicket ∧
      Stay.waiting.Matches (pool.enter.2.stage? ticket) := by
  -- Nobody has had the next ticket.
  have fresh := sound.stage?_nextTicket
  rcases pool.enter_cases with ⟨_, refused⟩ | ⟨_, _, queued⟩ | ⟨_, _, admitted⟩
  -- A closed pool issues no ticket.
  · simp [refused] at entered
  · rw [queued, Except.ok.injEq] at entered
    rw [queued, ← entered]
    exact ⟨rfl, Nat.lt_succ_self _, .inl fresh⟩
  · rw [admitted, Except.ok.injEq] at entered
    rw [admitted, ← entered]
    refine ⟨rfl, Nat.lt_succ_self _, .inr ?_⟩
    -- The new holder stands at the end, and nobody before it has the ticket.
    have unheld : pool.holders.lookup pool.nextTicket = none := fresh
    simp [stage?, List.lookup_append, unheld]

/-- A wait ends well only for a caller that has a permit, and otherwise with its departure. -/
theorem awaitPermit_cases (pool : Pool) (ticket : Ticket) :
    ((∃ stage, pool.stage? ticket = some stage) ∧ pool.awaitPermit ticket = (.ok (), pool)) ∨
      ∃ error, pool.awaitPermit ticket = (.error error, pool.leave ticket) := by
  unfold awaitPermit
  split
  -- The pool was closed, or the wait has come to its end.
  · exact .inr ⟨_, rfl⟩
  · split
    · rename_i stage held
      exact .inl ⟨⟨stage, held⟩, rfl⟩
    · exact .inr ⟨_, rfl⟩

/-- A caller with a permit then has a connection, or opens one. -/
theorem stage?_takeIdle (held : pool.stage? ticket = some .granted) :
    ((pool.takeIdle ticket).1 = true ∧ ∃ connection,
      (pool.takeIdle ticket).2.stage? ticket = some (.checkedOut connection false)) ∨
    ((pool.takeIdle ticket).1 = false ∧
      (pool.takeIdle ticket).2.stage? ticket = some .opening) := by
  unfold takeIdle
  split
  · refine .inr ⟨rfl, ?_⟩
    rw [stage?_setStage, if_pos rfl, held, Option.map_some]
  · rename_i connection rest stock
    -- The connection is taken from the idle ones, which is no change of the caller's stage.
    have still : ({ pool with idle := rest } : Pool).stage? ticket = some .granted := held
    refine .inl ⟨rfl, connection, ?_⟩
    rw [stage?_setStage, if_pos rfl, still, Option.map_some]

/-- A caller that opened a connection has it. -/
theorem stage?_opened (held : pool.stage? ticket = some .opening) :
    (pool.opened ticket (.ok ())).stage? ticket =
      some (.checkedOut pool.nextConnection false) := by
  -- The number of the connection is counted up first.
  have still : ({ pool with nextConnection := pool.nextConnection + 1 } : Pool).stage? ticket =
      some .opening := held
  simp only [opened]
  rw [stage?_setStage, if_pos rfl, still, Option.map_some]

/-- A caller keeps its connection, whether it may be reused or not. -/
theorem stage?_mark {connection : Nat} {before : Bool}
    (held : pool.stage? ticket = some (.checkedOut connection before)) (broken : Bool) :
    (pool.mark ticket broken).stage? ticket = some (.checkedOut connection broken) := by
  simp only [mark, held]
  rw [stage?_setStage, if_pos rfl, held, Option.map_some]

end Pool

namespace ClientState

variable {state : ClientState} {ref : PoolRef} {pool : Pool}

/-- The state with another pool in place of one that was made. -/
def withPool (state : ClientState) (id : Nat) (pool : Pool) : ClientState :=
  { state with topology := state.topology.updatePool id fun _ => pool }

/-- A pool that is put in the place of another one replaces it. -/
theorem withPool_replaced {id : Nat} {known : Pool} (found : state.topology.pool? id = some known)
    (pool : Pool) : Replaced id pool state.topology (state.withPool id pool).topology := by
  intro other
  rw [withPool, Topology.pool?_updatePool]
  split
  · rename_i same
    -- The place that is looked up is the one that was replaced.
    rw [← same, found, Option.map_some]
  · rfl

/-- A pool that is put in place is found there. -/
theorem pool?_withPool {id : Nat} {known : Pool} (found : state.topology.pool? id = some known)
    (pool : Pool) : (state.withPool id pool).topology.pool? id = some pool := by
  rw [withPool_replaced found, if_pos rfl]

/-- Of two pools that are put in one place the second one stays. -/
theorem withPool_withPool (state : ClientState) (id : Nat) (first second : Pool) :
    (state.withPool id first).withPool id second = state.withPool id second := by
  simp only [withPool, Topology.updatePool, mk.injEq, Topology.mk.injEq, and_true, true_and]
  -- Two tables are the same if they have the same pool at each place.
  refine Array.ext_getElem? fun other => ?_
  simp only [Array.getElem?_modify]
  split
  · rw [Option.map_map]
    rfl
  · rfl

/-- A change to a pool puts the changed pool in its place. -/
theorem changePool_eq (found : state.topology.pool? ref.id = some pool) (change : Pool → Pool) :
    state.changePool ref change = state.withPool ref.id (change pool) := by
  simp only [changePool, withPool, Topology.updatePool, mk.injEq, Topology.mk.injEq, and_true,
    true_and]
  refine Array.ext_getElem? fun other => ?_
  simp only [Array.getElem?_modify]
  split
  · rename_i same
    -- At the place of the pool, the change is made to that pool.
    have present : state.topology.pools[other]? = some pool := same ▸ found
    rw [present, Option.map_some, Option.map_some]
  · rfl

/-- A pool that is changed is replaced. -/
theorem changePool_replaced (found : state.topology.pool? ref.id = some pool)
    (change : Pool → Pool) :
    Replaced ref.id (change pool) state.topology (state.changePool ref change).topology := by
  rw [changePool_eq found]
  exact withPool_replaced found _

/-- A step of a pool that was made gives its answer and puts the changed pool in place. -/
theorem onPool_eq {α : Type} (found : state.topology.pool? ref.id = some pool) (missing : α)
    (step : Pool → α × Pool) :
    state.onPool ref missing step = ((step pool).1, state.withPool ref.id (step pool).2) := by
  simp only [onPool, found, withPool]

end ClientState

namespace Housed

variable {state : ClientState} {phase : Nat → Phase} {task : Nat} {ref : PoolRef} {ticket : Ticket}

/-- A caller that comes in has a place of its own. -/
theorem enter (housed : Housed state.topology phase) (here : phase task = .away) {next : Phase}
    (leads : Phase.away.Leads (.enter ref) (state.perform (.enter ref) ()).1 next) :
    Housed (state.perform (.enter ref) ()).2.topology (settle phase task next) := by
  simp only [ClientState.perform] at leads ⊢
  cases found : state.topology.pool? ref.id with
  | none =>
    -- A pool that was never made lets nobody in.
    have refused : state.onPool ref (ClientState.missing ref) Pool.enter =
        (ClientState.missing ref, state) := by
      simp only [ClientState.onPool, found]
    rw [refused] at leads ⊢
    cases leads with
    | refused _ error =>
      rw [← here, settle_self]
      exact housed
    | elsewhere outside => simp [Op.isElsewhere] at outside
  | some pool =>
    have sound := housed.sound _ _ found
    have replaced := ClientState.withPool_replaced found pool.enter.2
    rw [ClientState.onPool_eq found] at leads ⊢
    refine Movement.housed ⟨found, replaced, sound.enter, pool.evolves_enter, .inl ⟨here, rfl⟩, ?_⟩
      housed
    cases entered : pool.enter.1 with
    | error error =>
      rw [entered] at leads
      cases leads with
      | refused _ _ =>
        refine .inl ⟨rfl, ?_⟩
        rcases pool.enter_cases with ⟨_, kept⟩ | ⟨_, _, queued⟩ | ⟨_, _, admitted⟩
        · rw [kept]
          exact sound.nextTicket_not_mem
        · simp [queued] at entered
        · simp [admitted] at entered
      | elsewhere outside => simp [Op.isElsewhere] at outside
    | ok given =>
      rw [entered] at leads
      cases leads with
      | entered _ _ =>
        obtain ⟨rfl, issued, fits⟩ := sound.arrival entered
        exact .inr ⟨.waiting, rfl, issued, fits⟩
      | elsewhere outside => simp [Op.isElsewhere] at outside

variable {topology after : Topology} {pool changed : Pool} {stay : Stay}

/-- A caller that leaves its pool has no place any more. -/
theorem depart (housed : Housed topology phase) (here : phase task = .inside ref ticket stay)
    (found : topology.pool? ref.id = some pool)
    (replaced : Replaced ref.id (pool.leave ticket) topology after) :
    Housed after (settle phase task .away) :=
  have sound := housed.sound _ _ found
  Movement.housed ⟨found, replaced, sound.leave ticket, pool.evolves_leave ticket,
    .inr ⟨stay, here⟩, .inl ⟨rfl, sound.not_mem_leave ticket⟩⟩ housed

/-- A caller that goes on inside its pool keeps its place. -/
theorem proceed (housed : Housed topology phase) (here : phase task = .inside ref ticket stay)
    (found : topology.pool? ref.id = some pool) (replaced : Replaced ref.id changed topology after)
    (sound : changed.Sound) (evolves : pool.Evolves ticket changed) {next : Stay}
    (fits : next.Matches (changed.stage? ticket)) :
    Housed after (settle phase task (.inside ref ticket next)) := by
  obtain ⟨known, located, issued, _⟩ := housed.fits _ _ _ _ here
  rw [found, Option.some.injEq] at located
  subst located
  exact Movement.housed ⟨found, replaced, sound, evolves, .inr ⟨stay, here⟩,
    .inr ⟨next, rfl, Nat.lt_of_lt_of_le issued evolves.issued, fits⟩⟩ housed

/-- The end of a wait moves the caller on or out. -/
theorem awaitPermit (housed : Housed state.topology phase)
    (here : phase task = .inside ref ticket .waiting) {next : Phase}
    (leads : (Phase.inside ref ticket .waiting).Leads (.awaitPermit ref ticket)
      (state.perform (.awaitPermit ref ticket) ()).1 next) :
    Housed (state.perform (.awaitPermit ref ticket) ()).2.topology (settle phase task next) := by
  obtain ⟨pool, found, _, fits⟩ := housed.fits _ _ _ _ here
  have replaced := ClientState.withPool_replaced found (pool.awaitPermit ticket).2
  simp only [ClientState.perform, ClientState.onPool_eq found] at leads ⊢
  rcases pool.awaitPermit_cases ticket with ⟨⟨stage, held⟩, granted⟩ | ⟨error, denied⟩
  · simp only [granted] at leads replaced ⊢
    have admitted : pool.stage? ticket = some .granted := by
      rcases fits with unheld | granted
      · simp [held] at unheld
      · exact granted
    -- The permit was there already, so the pool does not change.
    cases leads with
    | admitted _ _ =>
      exact housed.proceed here found replaced (housed.sound _ _ found) (.refl _ pool) admitted
    | elsewhere outside => simp [Op.isElsewhere] at outside
  · simp only [denied] at leads replaced ⊢
    cases leads with
    | denied _ _ _ => exact housed.depart here found replaced
    | elsewhere outside => simp [Op.isElsewhere] at outside

/-- An idle connection, or the lack of one, moves the caller on. -/
theorem takeIdle (housed : Housed state.topology phase)
    (here : phase task = .inside ref ticket .admitted) {next : Phase}
    (leads : (Phase.inside ref ticket .admitted).Leads (.takeIdle ref ticket)
      (state.perform (.takeIdle ref ticket) ()).1 next) :
    Housed (state.perform (.takeIdle ref ticket) ()).2.topology (settle phase task next) := by
  obtain ⟨pool, found, _, fits⟩ := housed.fits _ _ _ _ here
  have replaced := ClientState.withPool_replaced found (pool.takeIdle ticket).2
  have sound := (housed.sound _ _ found).takeIdle fits
  have evolves := pool.evolves_takeIdle ticket
  simp only [ClientState.perform, ClientState.onPool_eq found] at leads ⊢
  rcases Pool.stage?_takeIdle fits with ⟨reused, connection, held⟩ | ⟨opening, held⟩
  · rw [reused] at leads
    cases leads with
    | reused _ _ => exact housed.proceed here found replaced sound evolves ⟨connection, false, held⟩
    | elsewhere outside => simp [Op.isElsewhere] at outside
  · rw [opening] at leads
    cases leads with
    | opening _ _ => exact housed.proceed here found replaced sound evolves held
    | elsewhere outside => simp [Op.isElsewhere] at outside

/-- The end of an attempt to connect moves the caller on or out. -/
theorem connect (housed : Housed state.topology phase)
    (here : phase task = .inside ref ticket .opening) {outcome : Except ClientError Unit}
    {next : Phase}
    (leads : (Phase.inside ref ticket .opening).Leads (.connect ref ticket) outcome next) :
    Housed (state.perform (.connect ref ticket) outcome).2.topology
      (settle phase task next) := by
  obtain ⟨pool, found, _, fits⟩ := housed.fits _ _ _ _ here
  have replaced := ClientState.changePool_replaced found (·.opened ticket outcome)
  have sound := (housed.sound _ _ found).opened fits outcome
  have evolves := pool.evolves_opened ticket outcome
  cases leads with
  | opened _ _ =>
    exact housed.proceed here found replaced sound evolves ⟨_, _, Pool.stage?_opened fits⟩
  | failed _ _ error => exact housed.depart here found replaced
  | elsewhere outside => simp [Op.isElsewhere] at outside

/-- A caller that uses its connection keeps it. -/
theorem mark (housed : Housed state.topology phase)
    (here : phase task = .inside ref ticket .connected) (broken : Bool) :
    Housed (state.mark (.pooled ref ticket) broken).topology phase := by
  obtain ⟨pool, found, _, ⟨connection, before, held⟩⟩ := housed.fits _ _ _ _ here
  have replaced := ClientState.changePool_replaced found (·.mark ticket broken)
  have settled : Housed (state.mark (.pooled ref ticket) broken).topology
      (settle phase task (.inside ref ticket .connected)) := housed.proceed here found replaced
    ((housed.sound _ _ found).mark ticket broken) (pool.evolves_mark ticket broken)
    ⟨connection, broken, Pool.stage?_mark held broken⟩
  rwa [← here, settle_self] at settled

/-- A step of one caller leaves everyone where the caller's own answers put them. -/
theorem perform (housed : Housed state.topology phase) {op : Op} {choice : op.Choice} {next : Phase}
    (leads : (phase task).Leads op (state.perform op choice).1 next) :
    Housed (state.perform op choice).2.topology (settle phase task next) := by
  -- The cases need an answer that is a variable, so its origin is kept on the side.
  generalize here : phase task = current at leads
  generalize given : (state.perform op choice).1 = answer at leads
  have again := leads
  -- One case for each way to move, grouped by the step that was taken.
  cases leads with
  | entered _ _ => exact housed.enter here (given ▸ again)
  | refused _ _ => exact housed.enter here (given ▸ again)
  | admitted _ _ => exact housed.awaitPermit here (given ▸ again)
  | denied _ _ _ => exact housed.awaitPermit here (given ▸ again)
  | reused _ _ => exact housed.takeIdle here (given ▸ again)
  | opening _ _ => exact housed.takeIdle here (given ▸ again)
  | opened _ _ =>
    have outcome : choice = .ok () := given
    exact outcome ▸ housed.connect here again
  | failed _ _ error =>
    have outcome : choice = .error error := given
    exact outcome ▸ housed.connect here again
  | sent _ _ _ =>
    rw [← here, settle_self]
    exact housed.mark here true
  | answered _ _ _ _ =>
    rw [← here, settle_self]
    exact housed.mark here _
  | left _ _ _ =>
    obtain ⟨pool, found, _⟩ := housed.fits _ _ _ _ here
    exact housed.depart here found (ClientState.changePool_replaced found (·.leave _))
  | elsewhere outside =>
    rw [← here, settle_self]
    exact housed.renew (.of_elsewhere outside state choice)

/-- A caller that is where it was leaves everyone in place. -/
theorem still (housed : Housed state.topology phase) (task : Nat) :
    Housed state.topology (settle phase task (phase task)) := by
  rwa [settle_self]

/-- A caller that leaves its pool, if it is in one, leaves the others in theirs. -/
theorem vacate (housed : Housed state.topology phase) (task : Nat) :
    Housed (state.topology.vacate (phase task)) (settle phase task .away) := by
  cases here : phase task with
  | away =>
    have still := housed.still task
    rwa [here] at still
  | inside ref ticket stay =>
    have leads : (phase task).Leads (.leave ref ticket)
        (state.perform (.leave ref ticket) ()).1 .away := here ▸ .left ref ticket stay
    exact housed.perform leads

end Housed

end RedisCluster
