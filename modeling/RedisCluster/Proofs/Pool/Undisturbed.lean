import RedisCluster.Program.Trace
import RedisCluster.Proofs.Pool.Tenancy

/-! A caller that has a pool to itself gets a connection at once and leaves the pool as free as it
was. -/

namespace RedisCluster

namespace Pool

/-- A pool serves one caller, and no other one waits. -/
structure Attending (endpoint : Endpoint) (ticket : Ticket) (stay : Stay) (pool : Pool) :
    Prop where
  sound : pool.Sound
  accepting : pool.closed = false
  endpoint : pool.endpoint = endpoint
  unhurried : pool.waiting = []
  fits : stay.Matches (pool.stage? ticket)

/-- A pool is open and can serve a caller at once. -/
structure Free (endpoint : Endpoint) (pool : Pool) : Prop where
  sound : pool.Sound
  accepting : pool.closed = false
  endpoint : pool.endpoint = endpoint
  spare : 0 < pool.available

variable {endpoint : Endpoint} {ticket : Ticket} {stay : Stay} {pool : Pool}

/-- A free pool gives a permit to whoever comes in. -/
theorem Free.enter (free : pool.Free endpoint) :
    pool.enter.1 = .ok pool.nextTicket ∧
      pool.enter.2.Attending endpoint pool.nextTicket .admitted := by
  have unheld := free.sound.stage?_nextTicket
  have sound := free.sound.enter
  -- Of the three ways to be answered only one is left.
  rcases pool.enter_cases with ⟨shut, _⟩ | ⟨_, exhausted, _⟩ | ⟨_, _, admitted⟩
  · simp [free.accepting] at shut
  · exact absurd exhausted (Nat.ne_of_gt free.spare)
  · rw [admitted] at sound ⊢
    refine ⟨rfl, sound, free.accepting, free.endpoint, free.sound.served free.spare, ?_⟩
    -- The new holder is the last one, and nobody before it has its ticket.
    have before : pool.holders.lookup pool.nextTicket = none := unheld
    simp [Stay.Matches, stage?, List.lookup_append, before]

namespace Attending

/-- Who has a permit of an open pool does not wait. -/
theorem awaitPermit (attending : pool.Attending endpoint ticket .admitted) :
    pool.awaitPermit ticket = (.ok (), pool) := by
  have held : pool.stage? ticket = some .granted := attending.fits
  simp [Pool.awaitPermit, attending.accepting, held]

/-- A change of stage is all that a caller with a place brings about. -/
theorem setStage (attending : pool.Attending endpoint ticket stay) {next : Stay} {stage : Stage}
    (sound : (pool.setStage ticket stage).Sound)
    (fits : next.Matches ((pool.setStage ticket stage).stage? ticket)) :
    (pool.setStage ticket stage).Attending endpoint ticket next :=
  ⟨sound, attending.accepting, attending.endpoint, attending.unhurried, fits⟩

/-- An idle connection is taken, or a new one is opened. -/
theorem takeIdle (attending : pool.Attending endpoint ticket .admitted) :
    ((pool.takeIdle ticket).1 = true ∧
      (pool.takeIdle ticket).2.Attending endpoint ticket .connected) ∨
    ((pool.takeIdle ticket).1 = false ∧
      (pool.takeIdle ticket).2.Attending endpoint ticket .opening) := by
  have held : pool.stage? ticket = some .granted := attending.fits
  have sound := attending.sound.takeIdle held
  -- Nothing but the stage of the caller and the idle connections changes.
  have same : (pool.takeIdle ticket).2.closed = pool.closed ∧
      (pool.takeIdle ticket).2.endpoint = pool.endpoint ∧
      (pool.takeIdle ticket).2.waiting = pool.waiting := by
    unfold Pool.takeIdle
    split <;> exact ⟨rfl, rfl, rfl⟩
  have accepting := same.1.trans attending.accepting
  have endpoint := same.2.1.trans attending.endpoint
  have unhurried := same.2.2.trans attending.unhurried
  -- Either way the caller has moved on, and the pool still serves it alone.
  rcases stage?_takeIdle held with ⟨reused, connection, there⟩ | ⟨opening, there⟩
  · exact .inl ⟨reused, sound, accepting, endpoint, unhurried, connection, false, there⟩
  · exact .inr ⟨opening, sound, accepting, endpoint, unhurried, there⟩

/-- A node that can be reached lends the caller a connection. -/
theorem opened (attending : pool.Attending endpoint ticket .opening) :
    (pool.opened ticket (.ok ())).Attending endpoint ticket .connected :=
  -- The new connection is the caller's, and has the next number.
  ⟨attending.sound.opened attending.fits _, attending.accepting, attending.endpoint,
    attending.unhurried, _, _, stage?_opened attending.fits⟩

/-- Using a connection keeps it. -/
theorem mark (attending : pool.Attending endpoint ticket .connected) (broken : Bool) :
    (pool.mark ticket broken).Attending endpoint ticket .connected := by
  -- For whoever has a connection, a mark is a change of stage.
  obtain ⟨connection, before, held⟩ := attending.fits
  have marked : pool.mark ticket broken =
      pool.setStage ticket (.checkedOut connection broken) := by
    simp [Pool.mark, held]
  have sound := attending.sound.mark ticket broken
  have there := stage?_mark held broken
  rw [marked] at sound there ⊢
  exact attending.setStage sound ⟨connection, broken, there⟩

/-- Leaving makes a pool free again. -/
theorem leave (attending : pool.Attending endpoint ticket .connected) :
    (pool.leave ticket).Free endpoint := by
  -- The caller has a connection, whether it is broken or not.
  obtain ⟨connection, broken, held⟩ := attending.fits
  have sound := attending.sound.leave ticket
  -- Nobody waits, so the permit becomes available.
  have left : pool.leave ticket = { pool.evict ticket with
      idle := pool.idleAfter (.checkedOut connection broken)
      available := pool.available + 1 } := by
    rw [leave_of_holder held]
    simp [releasePermit, Pool.evict, attending.unhurried]
  rw [left] at sound ⊢
  exact ⟨sound, attending.accepting, attending.endpoint, Nat.succ_pos _⟩

end Attending

end Pool

end RedisCluster
