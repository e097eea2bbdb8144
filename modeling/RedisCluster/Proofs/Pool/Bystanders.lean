import RedisCluster.Proofs.Pool.Accounting

/-! What a step of one caller means for that caller, and how little it means for all others. -/

namespace RedisCluster.Pool

variable {pool before after : Pool} {ticket mover other : Ticket} {stage : Stage}

/-- A pool goes on from one step of a caller, as all other callers see it. -/
structure Evolves (mover : Ticket) (before after : Pool) : Prop where
  /-- Others stay at their stages, but whoever waits may get a permit. -/
  others : ∀ ticket, ticket ≠ mover → after.stage? ticket = before.stage? ticket ∨
    (before.stage? ticket = none ∧ after.stage? ticket = some .granted)
  /-- Nobody else comes in. -/
  inside : ∀ ticket ∈ after.tickets, ticket ≠ mover → ticket ∈ before.tickets
  /-- No ticket is taken back. -/
  issued : before.nextTicket ≤ after.nextTicket
  /-- The pool stays under its configuration. -/
  config : after.config = before.config
  /-- A closed pool is never opened again. -/
  closed : before.closed = true → after.closed = true

/-- A step that changes nothing is one that nobody notices. -/
theorem Evolves.refl (mover : Ticket) (pool : Pool) : Evolves mover pool pool where
  others _ _ := .inl rfl
  inside _ member _ := member
  issued := Nat.le_refl _
  config := rfl
  closed shut := shut

/-- Only the caller that moves to another stage is seen there. -/
theorem stage?_setStage (pool : Pool) (ticket other : Ticket) (next : Stage) :
    (pool.setStage ticket next).stage? other =
      if other = ticket then (pool.stage? ticket).map fun _ => next else pool.stage? other := by
  unfold setStage stage?
  induction pool.holders with
  -- The stage is looked up along the list, so the induction is on the holders.
  | nil => simp
  | cons holder rest ih =>
    -- The first holder may be the one that moves, the one that is looked up, or neither.
    rcases holder with ⟨first, reached⟩
    simp only [List.map_cons, List.lookup_cons] at ih ⊢
    by_cases mine : first = ticket
    · subst mine
      by_cases same : other = first
      · simp [same]
      · have unequal : (other == first) = false := by simpa using same
        simpa [same, unequal, List.lookup_cons] using ih
    · by_cases same : other = first
      · subst same
        simp [mine]
      · have unequal : (other == first) = false := by simpa using same
        have further : (ticket == first) = false := by simpa using Ne.symm mine
        simpa [mine, unequal, further, List.lookup_cons] using ih

/-- A holder that is gone has no stage, and every other holder keeps its stage. -/
theorem stage?_evict (pool : Pool) (ticket other : Ticket) :
    (pool.evict ticket).stage? other = if other = ticket then none else pool.stage? other := by
  unfold evict stage?
  induction pool.holders with
  | nil => simp
  | cons holder rest ih =>
    -- Behind a holder that goes there may be others with its ticket, which go as well.
    rcases holder with ⟨first, reached⟩
    simp only [List.filter_cons, List.lookup_cons] at ih ⊢
    by_cases mine : first = ticket
    · subst mine
      by_cases same : other = first
      · simpa [same] using ih
      · have unequal : (other == first) = false := by simpa using same
        simpa [same, unequal] using ih
    · by_cases same : other = first
      · subst same
        simp [mine]
      · have unequal : (other == first) = false := by simpa using same
        simpa [mine, unequal, List.lookup_cons] using ih

/-- A permit that is passed on reaches somebody who had none. -/
theorem stage?_releasePermit (pool : Pool) (ticket : Ticket) :
    pool.releasePermit.stage? ticket = pool.stage? ticket ∨
      (ticket ∈ pool.waiting ∧ pool.stage? ticket = none ∧
        pool.releasePermit.stage? ticket = some .granted) := by
  unfold releasePermit
  split
  -- Nobody waits, so the permit goes to no caller.
  · exact .inl rfl
  · rename_i next rest queue
    simp only [stage?, List.lookup_append]
    cases held : pool.holders.lookup ticket with
    | some stage => exact .inl rfl
    | none =>
      -- Of those who had no permit only the first in line gets one.
      by_cases same : ticket = next
      · subst same
        exact .inr ⟨by simp [queue], rfl, by simp⟩
      · exact .inl (by simp [same])

/-- Passing a permit on lets nobody in or out. -/
@[simp] theorem releasePermit_tickets (pool : Pool) :
    pool.releasePermit.tickets = pool.tickets := by
  cases queue : pool.waiting <;> simp [releasePermit, tickets, queue]

/-- Whoever has a stage is inside. -/
theorem mem_tickets_of_stage? (held : pool.stage? ticket = some stage) : ticket ∈ pool.tickets := by
  obtain ⟨front, back, same, _⟩ := List.lookup_eq_some_iff.1 held
  -- A lookup that succeeds has found a holder.
  simp [tickets, same]

/-- Nobody is both waiting and a holder. -/
theorem Balanced.stage?_of_waiting {inHand : Nat} (balanced : pool.Balanced inHand)
    (waits : ticket ∈ pool.waiting) : pool.stage? ticket = none := by
  cases held : pool.stage? ticket with
  | none => rfl
  | some stage =>
    -- A holder that also waited would be inside twice.
    have inside : ticket ∈ pool.holders.map Prod.fst := by
      obtain ⟨front, back, same, _⟩ := List.lookup_eq_some_iff.1 held
      simp [same]
    have apart := (List.nodup_append.1 balanced.distinct).2.2
    exact absurd rfl (apart ticket inside ticket waits)

/-- The ticket that is given out next has no stage yet. -/
theorem Balanced.stage?_nextTicket {inHand : Nat} (balanced : pool.Balanced inHand) :
    pool.stage? pool.nextTicket = none := by
  cases held : pool.stage? pool.nextTicket with
  | none => rfl
  -- A stage would put the next ticket inside, where only earlier ones are.
  | some stage => exact absurd (mem_tickets_of_stage? held) balanced.nextTicket_not_mem

/-- Other callers of a pool see no more of a holder's next stage than of its last one. -/
theorem evolves_setStage (pool : Pool) (ticket : Ticket) (next : Stage) :
    Evolves ticket pool (pool.setStage ticket next) where
  others other apart := .inl (by rw [stage?_setStage, if_neg apart])
  inside other member _ := by rwa [setStage_tickets] at member
  issued := Nat.le_refl _
  config := rfl
  closed shut := shut

/-- A caller that comes in takes the next ticket, and the others stay as they are. -/
theorem evolves_enter (pool : Pool) : Evolves pool.nextTicket pool pool.enter.2 := by
  rcases pool.enter_cases with ⟨_, refused⟩ | ⟨_, _, queued⟩ | ⟨_, _, admitted⟩
  -- A closed pool lets nobody in.
  · rw [refused]
    exact .refl _ pool
  · rw [queued]
    refine ⟨fun _ _ => .inl rfl, fun other member apart => ?_, Nat.le_succ _, rfl, id⟩
    -- The queue is longer by the new ticket only.
    simp only [tickets, List.mem_append, List.mem_singleton] at member ⊢
    rcases member with holds | waits | mine
    · exact .inl holds
    · exact .inr waits
    · exact absurd mine apart
  · rw [admitted]
    -- The newcomer stands behind all others, so nobody's stage is hidden by its own.
    refine ⟨fun other apart => .inl ?_, fun other member apart => ?_, Nat.le_succ _, rfl, id⟩
    · have unequal : (other == pool.nextTicket) = false := by simpa using apart
      simp [stage?, List.lookup_append, List.lookup_cons, unequal]
    · simp only [tickets, List.map_append, List.map_cons, List.map_nil, List.mem_append,
        List.mem_singleton] at member ⊢
      rcases member with (holds | mine) | waits
      · exact .inl holds
      · exact absurd mine apart
      · exact .inr waits

/-- When a caller leaves, at most one other notices, and gets the permit. -/
theorem evolves_leave (pool : Pool) (ticket : Ticket) :
    Evolves ticket pool (pool.leave ticket) := by
  cases held : pool.stage? ticket with
  | none =>
    -- The queue is no part of anybody's stage.
    rw [leave_of_waiting held]
    refine ⟨fun _ _ => .inl rfl, fun other member _ => ?_, Nat.le_refl _, rfl, id⟩
    exact (List.filter_sublist.append_left _).subset member
  | some stage =>
    rw [leave_of_holder held]
    -- The caller goes first, and then its permit is passed on.
    generalize gone : ({ pool.evict ticket with idle := pool.idleAfter stage } : Pool) = vacated
    have stages : ∀ other, other ≠ ticket → vacated.stage? other = pool.stage? other := by
      intro other apart
      rw [← gone]
      exact (stage?_evict pool ticket other).trans (if_neg apart)
    have callers : vacated.tickets = (pool.evict ticket).tickets := by rw [← gone]; rfl
    -- What is left of the pool has no part in the passing on.
    have rest : vacated.releasePermit.nextTicket = pool.nextTicket ∧
        vacated.releasePermit.config = pool.config ∧
        vacated.releasePermit.closed = pool.closed := by
      rw [← gone]
      unfold releasePermit
      split <;> exact ⟨rfl, rfl, rfl⟩
    refine ⟨fun other apart => ?_, fun other member _ => ?_, Nat.le_of_eq rest.1.symm, rest.2.1,
      fun shut => rest.2.2.trans shut⟩
    -- Another caller sees the same stage, or gets the permit that it waited for.
    · rcases vacated.stage?_releasePermit other with same | ⟨_, waited, granted⟩
      · exact .inl (same.trans (stages other apart))
      · exact .inr ⟨(stages other apart).symm.trans waited, granted⟩
    · rw [releasePermit_tickets, callers] at member
      exact (evict_tickets_sublist pool ticket).subset member

/-- The end of a caller's wait is seen by others only as its departure, if at all. -/
theorem evolves_awaitPermit (pool : Pool) (ticket : Ticket) :
    Evolves ticket pool (pool.awaitPermit ticket).2 := by
  unfold awaitPermit
  split
  -- The pool was closed, so the caller leaves.
  · exact evolves_leave pool ticket
  · split
    · exact .refl _ pool
    · exact evolves_leave pool ticket

/-- Taking an idle connection concerns one caller. -/
theorem evolves_takeIdle (pool : Pool) (ticket : Ticket) :
    Evolves ticket pool (pool.takeIdle ticket).2 := by
  unfold takeIdle
  split
  · exact evolves_setStage pool ticket _
  · -- Nobody sees how many connections are idle.
    have step := evolves_setStage { pool with idle := ‹List Nat› } ticket
      -- The connection was idle before, and is a stage of the caller alone now.
      (.checkedOut ‹Nat› false)
    exact ⟨step.others, step.inside, step.issued, step.config, step.closed⟩

/-- The end of an attempt to connect concerns others only if the caller leaves. -/
theorem evolves_opened (pool : Pool) (ticket : Ticket) (outcome : Except ClientError Unit) :
    Evolves ticket pool (pool.opened ticket outcome) := by
  cases outcome with
  | error error => exact evolves_leave pool ticket
  | ok answer =>
    -- The number that the connection gets is used up, which no stage shows.
    have step := evolves_setStage { pool with nextConnection := pool.nextConnection + 1 } ticket
      (.checkedOut pool.nextConnection false)
    exact ⟨step.others, step.inside, step.issued, step.config, step.closed⟩

/-- Whether a connection may be reused concerns nobody else while it is checked out. -/
theorem evolves_mark (pool : Pool) (ticket : Ticket) (broken : Bool) :
    Evolves ticket pool (pool.mark ticket broken) := by
  unfold mark
  split
  · exact evolves_setStage pool ticket _
  · exact .refl _ pool

/-- Closing a pool takes nothing from those who hold a permit. -/
theorem evolves_close (pool : Pool) (mover : Ticket) : Evolves mover pool pool.close := by
  unfold close
  split
  · exact .refl _ pool
  -- Those who wait are gone, and those with a permit stay.
  · refine ⟨fun _ _ => .inl rfl, fun other member _ => ?_, Nat.le_refl _, rfl, fun _ => rfl⟩
    exact ((List.nil_sublist _).append_left _).subset member

/-- A caller that has left is not inside any more. -/
theorem Sound.not_mem_leave (sound : pool.Sound) (ticket : Ticket) :
    ticket ∉ (pool.leave ticket).tickets := by
  cases held : pool.stage? ticket with
  | none =>
    -- Who has no stage is no holder, and the queue does not list it any more.
    have absent : ticket ∉ pool.holders.map Prod.fst := by
      intro inside
      obtain ⟨holder, member, same⟩ := List.mem_map.1 inside
      have := (List.lookup_eq_none_iff.1 held) holder member
      simp [same] at this
    rw [leave_of_waiting held]
    simp only [tickets, List.mem_append, not_or]
    exact ⟨absent, by simp⟩
  | some stage =>
    -- A holder does not wait, so it is nowhere once its place is gone.
    have waits : ticket ∉ pool.waiting := by
      intro waits
      simp [sound.stage?_of_waiting waits] at held
    rw [leave_of_holder held, releasePermit_tickets]
    simp [tickets, Pool.evict, waits]

end RedisCluster.Pool
