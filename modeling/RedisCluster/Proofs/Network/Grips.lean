import RedisCluster.Proofs.Client.Manners
import RedisCluster.Proofs.Pool.Fitness

/-! Callers and their wires: a wire is clean whenever its connection is fit for a request or a request is
about to be made on it, whatever step is taken. -/

namespace RedisCluster

/-- What a caller has made of its connection is what the pool and the wire behind it know. -/
inductive Grip.Fits (topology : Topology) (wires : Wires) : Phase → Grip → Prop where
  | away (grip : Grip) : Fits topology wires .away grip
  | coming (ref : PoolRef) (ticket : Ticket) {stay : Stay} (early : stay ≠ .connected) :
      Fits topology wires (.inside ref ticket stay) .fit
  | holding {ref : PoolRef} {ticket : Ticket} {connection : Nat}
      (staged : topology.Staged ref.id ticket (.checkedOut connection false)) :
      Fits topology wires (.inside ref ticket .connected) .fit
  | awaiting {ref : PoolRef} {ticket : Ticket} {connection : Nat} {request : Request}
      (staged : topology.Staged ref.id ticket (.checkedOut connection true))
      (clean : (wires (ref.id, connection)).Clean) (sendable : request.frame.Sendable) :
      Fits topology wires (.inside ref ticket .connected) (.asked request)
  | spent {ref : PoolRef} {ticket : Ticket} {connection : Nat}
      (staged : topology.Staged ref.id ticket (.checkedOut connection true)) :
      Fits topology wires (.inside ref ticket .connected) .spent

/-- How a step turns out on the wires. -/
inductive Wires.Serve (dialer : Dialer) (state : ClientState) (wires : Wires) :
    (op : Op) → op.Choice → Wires → Prop where
  | quiet {op : Op} (choice : op.Choice) (still : state.wire? op = none) :
      Serve dialer state wires op choice wires
  | refused (ref : PoolRef) (ticket : Ticket) (error : ClientError) :
      Serve dialer state wires (.connect ref ticket) (.error error) wires
  | opened {ref : PoolRef} {ticket : Ticket} {place : Nat × Nat} {script : Script} {wire : Wire}
      (here : state.wire? (.connect ref ticket) = some place)
      (dialled : dialer.dial script = (.ok (), wire)) :
      Serve dialer state wires (.connect ref ticket) (.ok ()) (wires.put place wire)
  | replied {ref : PoolRef} {ticket : Ticket} {request : Request} {place : Nat × Nat}
      {script : Script} {frame : Frame} {wire : Wire}
      (here : state.wire? (.answer (.pooled ref ticket) request) = some place)
      (exchanged : (wires place).exchange script request.frame = (.ok frame, wire)) :
      Serve dialer state wires (.answer (.pooled ref ticket) request) (.ok frame)
        (wires.put place wire)
  | failed {ref : PoolRef} {ticket : Ticket} {request : Request} {place : Nat × Nat}
      {script : Script} {error : ClientError} {wire : Wire}
      (here : state.wire? (.answer (.pooled ref ticket) request) = some place)
      (exchanged : (wires place).exchange script request.frame = (.error (.failed error), wire)) :
      Serve dialer state wires (.answer (.pooled ref ticket) request) (.error error)
        (wires.put place wire)

namespace Wires

variable {wires after : Wires} {place : Nat × Nat} {wire : Wire} {dialer : Dialer}
  {state : ClientState} {op : Op} {choice : op.Choice}

@[simp] theorem put_same (wires : Wires) (place : Nat × Nat) (wire : Wire) :
    wires.put place wire place = wire :=
  if_pos rfl

theorem put_other (wires : Wires) {place other : Nat × Nat} (wire : Wire) (apart : other ≠ place) :
    wires.put place wire other = wires other :=
  if_neg apart

/-- Wires that a step is not about stay as they are. -/
theorem Serve.same (served : wires.Serve dialer state op choice after) {place : Nat × Nat}
    (apart : state.wire? op ≠ some place) : after place = wires place := by
  cases served with
  -- A quiet step has no wire at all.
  | quiet choice still => rfl
  | refused ref ticket error => rfl
  | opened here dialled => exact put_other _ _ fun same => apart (same ▸ here)
  | replied here exchanged => exact put_other _ _ fun same => apart (same ▸ here)
  | failed here exchanged => exact put_other _ _ fun same => apart (same ▸ here)

end Wires

/-- A step that concerns no place in a pool is about no wire. -/
theorem ClientState.wire?_of_elsewhere {op : Op} (outside : op.isElsewhere = true)
    (state : ClientState) : state.wire? op = none := by
  cases op with
  -- An answer concerns a wire only if the connection is pooled.
  | answer lease request => cases lease <;> first | rfl | simp [Op.isElsewhere] at outside
  | _ => first | rfl | simp [Op.isElsewhere] at outside

namespace Grip.Fits

variable {topology after : Topology} {wires changed : Wires} {phase : Phase} {grip : Grip}

/-- A caller whose stage and wire stay as they are finds what it expects. -/
theorem frame (fits : Fits topology wires phase grip)
    (kept : ∀ ref ticket connection broken, phase = .inside ref ticket .connected →
      topology.Staged ref.id ticket (.checkedOut connection broken) →
      after.Staged ref.id ticket (.checkedOut connection broken) ∧
        changed (ref.id, connection) = wires (ref.id, connection)) :
    Fits after changed phase grip := by
  cases fits with
  | away grip => exact .away grip
  -- Without a connection there is nothing to expect.
  | coming ref ticket early => exact .coming ref ticket early
  | holding staged => exact .holding (kept _ _ _ _ rfl staged).1
  | awaiting staged clean sendable =>
    -- While an answer is awaited the wire counts too.
    obtain ⟨still, same⟩ := kept _ _ _ _ rfl staged
    exact .awaiting still (same ▸ clean) sendable
  | spent staged => exact .spent (kept _ _ _ _ rfl staged).1

end Grip.Fits

/-- A caller that waits for an answer has asked for it on a clean wire, which is out of the pool until the
answer is in. -/
theorem Grip.Fits.asked {state : ClientState} {wires : Wires} {phase next : Phase} {past : Trace}
    {ref : PoolRef} {ticket : Ticket} {request : Request} {answer : Except ClientError Frame}
    (fits : Grip.Fits state.topology wires phase past.grip)
    (leads : phase.Leads (.answer (.pooled ref ticket) request) answer next)
    (allowed : Client.manners.allowed past (.answer (.pooled ref ticket) request)) :
    ∃ connection, state.wire? (.answer (.pooled ref ticket) request) = some (ref.id, connection) ∧
      state.topology.Staged ref.id ticket (.checkedOut connection true) ∧
      (wires (ref.id, connection)).Clean ∧ request.frame.Sendable := by
  -- By the manners of a caller it waits only for what it has asked.
  have asked : past.grip = .asked request := allowed
  rw [asked] at fits
  cases leads with
  | elsewhere outside => simp [Op.isElsewhere] at outside
  | answered _ _ _ _ =>
    cases fits with
    | @awaiting _ _ connection _ staged clean sendable =>
      obtain ⟨pool, found, held⟩ := staged
      have connected := (ClientState.connection?_eq_some_iff found).2 ⟨true, held⟩
      exact ⟨connection, by simp [ClientState.wire?, connected], ⟨pool, found, held⟩, clean, sendable⟩

namespace Housed

variable {state : ClientState} {phase : Nat → Phase} {task : Nat} {wires changed : Wires}
  {past : Trace} {dialer : Dialer} {op : Op} {choice : op.Choice} {next : Phase}

/-- A caller that takes a step finds its connection and its wire as it has made them. -/
theorem grip_perform (housed : Housed state.topology phase)
    (clean : ∀ id connection, state.topology.Fit id connection → (wires (id, connection)).Clean)
    (leads : (phase task).Leads op (state.perform op choice).1 next)
    (fits : Grip.Fits state.topology wires (phase task) past.grip)
    (allowed : Client.manners.allowed past op) (served : wires.Serve dialer state op choice changed) :
    Grip.Fits (state.perform op choice).2.topology changed next
      (Exchange.grip ⟨op, (state.perform op choice).1⟩ past.grip) := by
  -- The cases are the ways in which the step can lead on.
  generalize here : phase task = current at leads fits
  generalize given : (state.perform op choice).1 = answer at leads
  generalize now : past.grip = grip at fits
  cases leads with
  -- On the way in there is no connection yet.
  | entered ref ticket => exact .coming ref ticket (by simp)
  | refused ref error => exact .away _
  | admitted ref ticket =>
    cases fits
    exact .coming ref ticket (by simp)
  | denied ref ticket error => exact .away _
  | reused ref ticket =>
    cases fits
    -- An idle connection was taken, or one is to be opened.
    obtain ⟨pool, found, _, held⟩ := housed.fits _ _ _ _ here
    simp only [ClientState.perform, ClientState.onPool_eq found] at given ⊢
    rcases Pool.stage?_takeIdle held with ⟨_, connection, checked⟩ | ⟨opening, _⟩
    · exact .holding ⟨_, ClientState.pool?_withPool found _, checked⟩
    · simp [opening] at given
  | opening ref ticket =>
    cases fits
    exact .coming ref ticket (by simp)
  | opened ref ticket =>
    cases fits
    obtain rfl : choice = .ok () := given
    obtain ⟨pool, found, _, held⟩ := housed.fits _ _ _ _ here
    refine .holding ⟨pool.opened ticket (.ok ()), ?_, Pool.stage?_opened held⟩
    -- The connection is new, and nothing has failed on it.
    exact ClientState.pool?_changePool found _
  | failed ref ticket error => exact .away _
  | sent ref ticket request =>
    -- A request is sent only on a connection that is fit, whose wire is clean for it.
    obtain ⟨fit, sendable⟩ := allowed
    obtain rfl : grip = .fit := now.symm.trans fit
    cases fits with
    | coming _ _ early => exact absurd rfl early
    | holding staged =>
      obtain ⟨pool, found, held⟩ := staged
      have ready := clean _ _ ⟨pool, found, .inr ⟨ticket, held⟩⟩
      rw [← served.same (Option.some_ne_none _).symm] at ready
      exact .awaiting ⟨_, ClientState.pool?_changePool found _, Pool.stage?_mark held true⟩ ready
        sendable
  | answered ref ticket request answer =>
    -- The caller has asked, so it has a wire.
    obtain rfl : choice = answer := given
    rw [← now] at fits
    obtain ⟨own, mine, ⟨pool, found, held⟩, _⟩ :=
      fits.asked (.answered ref ticket request choice) allowed
    have marked := ClientState.pool?_changePool found fun pool =>
      pool.mark ticket (Pool.breaks choice)
    have staged := Pool.stage?_mark held (Pool.breaks choice)
    cases served with
    | quiet choice still => simp [mine] at still
    -- An answer leaves the connection fit for the next request.
    | replied here exchanged => exact .holding ⟨_, marked, staged⟩
    | failed here exchanged =>
      -- A failure makes the pool discard the connection.
      exact .spent ⟨_, marked, by rw [staged, Wire.exchange_breaks exchanged]⟩
  | left ref ticket stay => exact .away _
  | elsewhere outside =>
    -- The step was about something else, so both stage and wire are as before.
    rw [Exchange.grip_of_elsewhere outside]
    refine fits.frame fun ref ticket connection broken _ staged => ⟨?_, ?_⟩
    · refine ClientState.staged_perform staged housed.sound op choice fun there own about => ?_
      rw [Op.place?_of_elsewhere outside] at about
      cases about
    · have untouched := ClientState.wire?_of_elsewhere outside state
      exact served.same (by simp [untouched])

/-- A wire is clean whenever its connection is fit, whatever step is taken. -/
theorem clean_perform (housed : Housed state.topology phase) (sendable : dialer.Sendable)
    (clean : ∀ id connection, state.topology.Fit id connection → (wires (id, connection)).Clean)
    (leads : (phase task).Leads op (state.perform op choice).1 next)
    (fits : Grip.Fits state.topology wires (phase task) past.grip)
    (allowed : Client.manners.allowed past op) (served : wires.Serve dialer state op choice changed)
    {id connection : Nat} (fit : (state.perform op choice).2.topology.Fit id connection) :
    (changed (id, connection)).Clean := by
  by_cases about : state.wire? op = some (id, connection)
  · cases served with
    | quiet choice still => simp [still] at about
    | refused ref ticket error =>
      -- No caller gets a connection by being refused one.
      rcases housed.fit_perform leads fit with ⟨_, inside⟩ | before
      · -- A caller that was refused has left.
        generalize phase task = current at leads
        cases leads with
        | failed _ _ _ => contradiction
        | elsewhere outside => simp [Op.isElsewhere] at outside
      · exact clean id connection before
    | opened here dialled =>
      -- A connection that has just been opened has had a handshake only.
      obtain rfl := Option.some.inj (here.symm.trans about)
      rw [Wires.put_same]
      exact Dialer.dial_clean sendable dialled
    | replied here exchanged =>
      -- The reply was read to the end.
      obtain ⟨own, mine, _, ready, sendable⟩ := fits.asked leads allowed
      obtain rfl := Option.some.inj (here.symm.trans mine)
      rw [← Option.some.inj (mine.symm.trans about), Wires.put_same]
      exact (ready.exchange sendable exchanged).1
    | @failed ref ticket request place script error wire here exchanged =>
      -- A request that fails leaves its connection as unfit as it was meanwhile.
      obtain ⟨own, mine, staged, _⟩ := fits.asked leads allowed
      obtain ⟨rfl, rfl⟩ := Prod.mk.inj (Option.some.inj (mine.symm.trans about))
      obtain ⟨pool, found, held⟩ := staged
      refine absurd (ClientState.fit_changePool fit found fun fit => ?_)
        (housed.not_fit ⟨pool, found, held⟩)
      rcases Pool.fit_mark held fit with ⟨unbroken, _⟩ | before
      · simp [Wire.exchange_breaks exchanged] at unbroken
      · exact before
  · -- A wire that the step is not about was fit before.
    rw [served.same about]
    rcases housed.fit_perform leads fit with ⟨mine, _⟩ | before
    · exact absurd mine about
    · exact clean id connection before

end Housed

end RedisCluster
