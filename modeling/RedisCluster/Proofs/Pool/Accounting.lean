import RedisCluster.Pool

/-! The books of one pool: permits, tickets and connections add up after every step of a caller. -/

namespace RedisCluster

namespace Stage

/-- The connection that a holder at some stage has checked out. -/
def connection? : Stage → Option Nat
  | checkedOut connection _ => some connection
  | _ => none

@[simp] theorem connection?_granted : granted.connection? = none := rfl

@[simp] theorem connection?_opening : opening.connection? = none := rfl

@[simp] theorem connection?_checkedOut (connection : Nat) (broken : Bool) :
    (checkedOut connection broken).connection? = some connection := rfl

/-- The connections, checked out or being opened, that a holder at some stage accounts for. -/
def load : Stage → Nat
  | granted => 0
  | _ => 1

end Stage

namespace Pool

/-- The connections that are checked out, in the order of their holders. -/
def checkedOut (pool : Pool) : List Nat :=
  pool.holders.filterMap fun holder => holder.2.connection?

/-- The number of connections that are being opened. -/
def opening (pool : Pool) : Nat :=
  pool.holders.countP fun holder => holder.2 = .opening

/-- The callers inside a pool, with a permit or without. -/
def tickets (pool : Pool) : List Ticket :=
  pool.holders.map Prod.fst ++ pool.waiting

/-- The pool without one of its holders, whose permit and connection are not yet given back. -/
def evict (pool : Pool) (ticket : Ticket) : Pool :=
  { pool with holders := pool.holders.filter fun holder => holder.1 ≠ ticket }

/-- The books of a pool balance, but for some permits that are in hand between two callers. -/
structure Balanced (inHand : Nat) (pool : Pool) : Prop where
  /-- Every permit is available, held or in hand. -/
  permits : pool.available + pool.holders.length + inHand = capacity pool.config
  /-- Nobody waits while a permit is available. -/
  served : 0 < pool.available → pool.waiting = []
  /-- No caller is inside twice. -/
  distinct : pool.tickets.Nodup
  /-- Only tickets that were given out are inside. -/
  issued : ∀ ticket ∈ pool.tickets, ticket < pool.nextTicket
  /-- No connection is idle or checked out twice. -/
  single : (pool.idle ++ pool.checkedOut).Nodup
  /-- Only connections that were opened are idle or checked out. -/
  numbered : ∀ connection ∈ pool.idle ++ pool.checkedOut, connection < pool.nextConnection
  /-- The connections, and those being opened, stay within the number of permits. -/
  bounded : pool.idle.length + pool.checkedOut.length + pool.opening ≤ capacity pool.config
  /-- A closed pool keeps nothing idle and lets nobody wait. -/
  shut : pool.closed = true → pool.idle = [] ∧ pool.waiting = []

/-- The books of a pool balance between two steps. -/
abbrev Sound (pool : Pool) : Prop :=
  pool.Balanced 0

/-- A new pool has all its permits and nothing else. -/
theorem new_sound (endpoint : Endpoint) (config : PoolConfig) : (new endpoint config).Sound where
  permits := by simp [new]
  served := by simp [new]
  distinct := by simp [new, tickets]
  issued := by simp [new, tickets]
  single := by simp [new, checkedOut]
  numbered := by simp [new, checkedOut]
  bounded := by simp [new, checkedOut, opening]
  shut := by simp [new]

variable {pool : Pool} {ticket other : Ticket} {stage : Stage} {inHand : Nat}

/-- A holder with one ticket to itself has one place, which it keeps on its way. -/
theorem exists_split (distinct : (pool.holders.map Prod.fst).Nodup)
    (held : pool.stage? ticket = some stage) :
    ∃ front back, pool.holders = front ++ (ticket, stage) :: back ∧
      (pool.evict ticket).holders = front ++ back ∧
      ∀ next, (pool.setStage ticket next).holders = front ++ (ticket, next) :: back := by
  -- The lookup finds the first place of the ticket, and none in front of it.
  obtain ⟨front, back, same, ahead⟩ := List.lookup_eq_some_iff.1 held
  have before : ∀ holder ∈ front, holder.1 ≠ ticket := by
    intro holder member taken
    simpa [taken] using ahead holder member
  -- The ticket occurs once, so it does not come again behind its place.
  have after : ∀ holder ∈ back, holder.1 ≠ ticket := by
    intro holder member taken
    rw [same, List.map_append, List.map_cons, List.nodup_append, List.nodup_cons] at distinct
    exact distinct.2.1.1 (List.mem_map.2 ⟨holder, member, taken⟩)
  have kept : ∀ holders : List (Ticket × Stage), (∀ holder ∈ holders, holder.1 ≠ ticket) →
      ∀ next, holders.map (fun holder => if holder.1 = ticket then (ticket, next) else holder) =
        holders := by
    intro holders absent next
    refine (List.map_congr_left fun holder member => ?_).trans (List.map_id' holders)
    -- The one who is found is split from those in front of and behind it, which change nothing
    -- here.
    exact if_neg (absent holder member)
  refine ⟨front, back, same, ?_, fun next => ?_⟩
  · simp only [evict, same, List.filter_append, List.filter_cons]
    rw [List.filter_eq_self.2 (by simpa using before), List.filter_eq_self.2 (by simpa using after)]
    simp
  · simp only [setStage, same, List.map_append, List.map_cons, if_true]
    rw [kept front before, kept back after]

/-- A holder is one more than the holders that are left when it is gone. -/
theorem holders_perm (distinct : (pool.holders.map Prod.fst).Nodup)
    (held : pool.stage? ticket = some stage) :
    pool.holders.Perm ((ticket, stage) :: (pool.evict ticket).holders) := by
  obtain ⟨front, back, whole, rest, _⟩ := exists_split distinct held
  -- The order of the holders is of no account for the books.
  rw [whole, rest]
  exact List.perm_middle

/-- A holder that moves to another stage stays the only change among the holders. -/
theorem setStage_holders_perm (distinct : (pool.holders.map Prod.fst).Nodup)
    (held : pool.stage? ticket = some stage) (next : Stage) :
    (pool.setStage ticket next).holders.Perm ((ticket, next) :: (pool.evict ticket).holders) := by
  obtain ⟨front, back, _, rest, moved⟩ := exists_split distinct held
  rw [moved next, rest]
  exact List.perm_middle

/-- What a pool has checked out splits into the share of one holder and the rest. -/
theorem checkedOut_perm_of_holders {changed rest : Pool}
    (holders : changed.holders.Perm ((ticket, stage) :: rest.holders)) :
    changed.checkedOut.Perm (stage.connection?.toList ++ rest.checkedOut) := by
  refine (holders.filterMap _).trans (.of_eq ?_)
  -- A holder shares in what is checked out by its own connection, if it has one.
  cases taken : stage.connection? <;> simp [checkedOut, taken]

/-- What is idle or checked out splits into the share of one holder and the rest. -/
theorem connections_perm_of_holders (idle : List Nat) {changed rest : Pool}
    (holders : changed.holders.Perm ((ticket, stage) :: rest.holders)) :
    (idle ++ changed.checkedOut).Perm
      (stage.connection?.toList ++ (idle ++ rest.checkedOut)) := by
  refine ((checkedOut_perm_of_holders holders).append_left idle).trans ?_
  rw [← List.append_assoc, ← List.append_assoc]
  exact List.perm_append_comm.append_right _

/-- The load of a pool splits into the share of one holder and the rest. -/
theorem load_of_holders {changed rest : Pool}
    (holders : changed.holders.Perm ((ticket, stage) :: rest.holders)) :
    changed.checkedOut.length + changed.opening =
      stage.load + (rest.checkedOut.length + rest.opening) := by
  have out := (checkedOut_perm_of_holders holders).length_eq
  have opened : changed.opening = (if stage = .opening then 1 else 0) + rest.opening := by
    simp only [opening, holders.countP_eq, List.countP_cons, decide_eq_true_eq]
    -- Only the holder that is split off may be opening one beside the rest.
    omega
  rw [List.length_append] at out
  -- At each stage the holder accounts for at most one of the two.
  cases stage <;> simp [Stage.load] at out opened ⊢ <;> omega

/-- Every holder accounts for one connection at most. -/
theorem load_le_holders (pool : Pool) :
    pool.checkedOut.length + pool.opening ≤ pool.holders.length := by
  unfold checkedOut opening
  induction pool.holders with
  | nil => exact Nat.le_refl 0
  | cons holder rest ih =>
    rcases holder with ⟨_, _ | _ | _⟩ <;> simp [List.filterMap_cons] <;> omega

/-- Moving a holder to another stage leaves all tickets where they are. -/
@[simp] theorem setStage_tickets (pool : Pool) (ticket : Ticket) (next : Stage) :
    (pool.setStage ticket next).tickets = pool.tickets := by
  -- Only the stage behind the ticket changes.
  have kept : (Prod.fst ∘ fun holder : Ticket × Stage =>
      if holder.1 = ticket then (ticket, next) else holder) = Prod.fst := by
    funext holder
    -- The replaced pair has the ticket that it stands for.
    by_cases same : holder.1 = ticket <;> simp [same]
  simp only [tickets, setStage, List.map_map, kept]

/-- The connections of all holders but one are among those of all holders. -/
theorem evict_checkedOut_sublist (pool : Pool) (ticket : Ticket) :
    (pool.evict ticket).checkedOut.Sublist pool.checkedOut :=
  List.filter_sublist.filterMap _

/-- The callers other than one holder are among all callers. -/
theorem evict_tickets_sublist (pool : Pool) (ticket : Ticket) :
    (pool.evict ticket).tickets.Sublist pool.tickets :=
  (List.filter_sublist.map _).append_right _

/-- A holder that goes leaves the idle connections as they are or adds its own. -/
theorem idleAfter_cases (pool : Pool) (stage : Stage) :
    pool.idleAfter stage = pool.idle ∨
      ∃ connection, stage.connection? = some connection ∧ pool.closed = false ∧
        pool.idleAfter stage = connection :: pool.idle := by
  rcases stage with _ | _ | ⟨connection, _ | _⟩
  -- Who has no connection leaves none.
  · exact .inl rfl
  · exact .inl rfl
  · -- A connection that is fit for reuse is kept by an open pool.
    cases shut : pool.closed with
    | true => exact .inl (by simp [idleAfter, shut])
    | false => exact .inr ⟨connection, rfl, rfl, by simp [idleAfter, shut]⟩
  -- A broken connection is dropped.
  · exact .inl rfl

namespace Balanced

/-- No two holders have the same ticket. -/
theorem holders_distinct (balanced : pool.Balanced inHand) :
    (pool.holders.map Prod.fst).Nodup :=
  (List.nodup_append.1 balanced.distinct).1

/-- The connections that one holder leaves to the others are idle or checked out once. -/
theorem single_others (balanced : pool.Balanced inHand) (ticket : Ticket) :
    (pool.idle ++ (pool.evict ticket).checkedOut).Nodup :=
  balanced.single.sublist ((evict_checkedOut_sublist pool ticket).append_left _)

/-- The connections that one holder leaves to the others were opened. -/
theorem numbered_others (balanced : pool.Balanced inHand) (ticket : Ticket) :
    ∀ connection ∈ pool.idle ++ (pool.evict ticket).checkedOut,
      connection < pool.nextConnection := by
  intro connection member
  refine balanced.numbered connection ?_
  exact ((evict_checkedOut_sublist pool ticket).append_left _).subset member

/-- A holder may move to any stage whose connection is nobody else's, if there is room for it. -/
theorem setStage (balanced : pool.Balanced inHand) (held : pool.stage? ticket = some stage)
    {next : Stage}
    (fresh : ∀ connection, next.connection? = some connection →
      connection ∉ pool.idle ++ (pool.evict ticket).checkedOut ∧
        connection < pool.nextConnection)
    (room : pool.idle.length +
      (next.load + ((pool.evict ticket).checkedOut.length + (pool.evict ticket).opening)) ≤
        capacity pool.config) : (pool.setStage ticket next).Balanced inHand := by
  have holders := setStage_holders_perm balanced.holders_distinct held next
  -- The connection of the next stage comes to those of the other holders.
  have shares := connections_perm_of_holders pool.idle holders
  -- The eight books are gone through in the order of the structure.
  refine ⟨?_, balanced.served, ?_, ?_, shares.nodup_iff.2 ?_, fun connection member => ?_, ?_,
    balanced.shut⟩
  · -- The holder keeps its permit and its ticket.
    have same : (pool.setStage ticket next).holders.length = pool.holders.length := by
      simp [Pool.setStage]
    rw [same]
    exact balanced.permits
  · rw [setStage_tickets]
    exact balanced.distinct
  · rw [setStage_tickets]
    exact balanced.issued
  · have others := balanced.single_others ticket
    cases taken : next.connection? with
    | none => exact others
    | some connection => exact List.nodup_cons.2 ⟨(fresh connection taken).1, others⟩
  · -- A connection is the one of the next stage, or another holder's, or idle.
    rcases List.mem_append.1 (shares.mem_iff.1 member) with mine | elsewhere
    · exact (fresh connection (Option.mem_toList.1 mine)).2
    · exact balanced.numbered_others ticket connection elsewhere
  -- The load of the holder changes from one stage to the next, and there is room for that.
  · have load := load_of_holders holders
    show pool.idle.length + _ + _ ≤ capacity pool.config
    omega

/-- A holder that goes has its permit in hand and leaves its connection behind, if it is fit. -/
theorem evict (balanced : pool.Balanced inHand) (held : pool.stage? ticket = some stage) :
    Balanced (inHand + 1) { pool.evict ticket with idle := pool.idleAfter stage } := by
  have holders := holders_perm balanced.holders_distinct held
  have callers := evict_tickets_sublist pool ticket
  have permits := balanced.permits
  have load := load_of_holders holders
  have bounded := balanced.bounded
  -- One holder fewer is one permit more in hand.
  have fewer : pool.holders.length = (pool.evict ticket).holders.length + 1 := holders.length_eq
  -- What the holder leaves behind was checked out before.
  have shares := connections_perm_of_holders pool.idle holders
  refine ⟨?_, balanced.served, balanced.distinct.sublist callers,
    fun caller member => balanced.issued caller (callers.subset member), ?_, ?_, ?_, ?_⟩
  · -- The permit that was held is in hand from now on, so the sum is the same.
    show pool.available + (pool.evict ticket).holders.length + (inHand + 1) = capacity pool.config
    omega
  · show (pool.idleAfter stage ++ (pool.evict ticket).checkedOut).Nodup
    rcases pool.idleAfter_cases stage with same | ⟨connection, taken, _, same⟩
    · rw [same]
      exact balanced.single_others ticket
    · rw [taken] at shares
      rw [same]
      exact shares.nodup_iff.1 balanced.single
  · show ∀ connection ∈ pool.idleAfter stage ++ (pool.evict ticket).checkedOut, _
    rcases pool.idleAfter_cases stage with same | ⟨connection, taken, _, same⟩
    · rw [same]
      exact balanced.numbered_others ticket
    · rw [taken] at shares
      rw [same]
      intro other member
      exact balanced.numbered other (shares.mem_iff.2 member)
  · show (pool.idleAfter stage).length + (pool.evict ticket).checkedOut.length +
      (pool.evict ticket).opening ≤ capacity pool.config
    rcases pool.idleAfter_cases stage with same | ⟨connection, taken, _, same⟩
    · rw [same]
      omega
    · -- The connection left behind is one that the holder accounted for.
      have counted : stage.load = 1 := by cases stage <;> simp_all [Stage.load]
      rw [same, List.length_cons]
      omega
  · intro closed
    have shut : pool.closed = true := closed
    rcases pool.idleAfter_cases stage with same | ⟨_, _, accepting, _⟩
    -- The connection of a holder is not kept by a closed pool, which stays empty.
    · exact ⟨same.trans (balanced.shut shut).1, (balanced.shut shut).2⟩
    · simp [shut] at accepting

/-- A permit in hand goes to whoever waits longest, or becomes available. -/
theorem releasePermit (balanced : pool.Balanced (inHand + 1)) :
    pool.releasePermit.Balanced inHand := by
  have permits := balanced.permits
  cases queue : pool.waiting with
  | nil =>
    -- Nobody waits, so the permit becomes available.
    have released : pool.releasePermit = { pool with available := pool.available + 1 } := by
      simp [Pool.releasePermit, queue]
    rw [released]
    refine { balanced with permits := ?_, served := fun _ => queue }
    show pool.available + 1 + pool.holders.length + inHand = capacity pool.config
    omega
  | cons next rest =>
    have busy : pool.available = 0 := by
      -- Nobody waits while a permit is available.
      rcases Nat.eq_zero_or_pos pool.available with exhausted | spare
      · exact exhausted
      · simp [balanced.served spare] at queue
    have released : pool.releasePermit =
        { pool with waiting := rest, holders := pool.holders ++ [(next, .granted)] } := by
      simp [Pool.releasePermit, queue]
    -- The permit goes straight to the first in line, who was inside before.
    have callers : pool.releasePermit.tickets = pool.tickets := by
      simp [released, tickets, queue]
    have out : pool.releasePermit.checkedOut = pool.checkedOut := by
      simp [released, checkedOut]
    have pending : pool.releasePermit.opening = pool.opening := by
      simp [released, opening]
    -- The holder that was in line counts for the permit that was in hand.
    refine ⟨?_, ?_, callers ▸ balanced.distinct, ?_, ?_, ?_, ?_, ?_⟩
    · rw [released]
      simp only [List.length_append, List.length_singleton]
      omega
    · rw [released]
      intro spare
      exact absurd busy (Nat.ne_of_gt spare)
    · rw [callers, released]
      exact balanced.issued
    · rw [out, released]
      exact balanced.single
    · rw [out, released]
      exact balanced.numbered
    · rw [out, pending, released]
      exact balanced.bounded
    · -- A closed pool would have nobody in line.
      rw [released]
      intro closed
      have unattended := (balanced.shut closed).2
      simp [queue] at unattended

end Balanced

/-- A caller is refused by a closed pool; otherwise it queues up or gets a permit. -/
theorem enter_cases (pool : Pool) :
    (pool.closed = true ∧ pool.enter = (.error pool.closedError, pool)) ∨
    (pool.closed = false ∧ pool.available = 0 ∧ pool.enter = (.ok pool.nextTicket, { pool with
      waiting := pool.waiting ++ [pool.nextTicket]
      nextTicket := pool.nextTicket + 1 })) ∨
    (pool.closed = false ∧ 0 < pool.available ∧ pool.enter = (.ok pool.nextTicket, { pool with
      available := pool.available - 1
      holders := pool.holders ++ [(pool.nextTicket, .granted)]
      nextTicket := pool.nextTicket + 1 })) := by
  cases shut : pool.closed with
  -- The flag is looked at before the permits.
  | true => exact .inl ⟨rfl, by simp [enter, shut]⟩
  | false =>
    rcases Nat.eq_zero_or_pos pool.available with exhausted | spare
    · exact .inr (.inl ⟨rfl, exhausted, by simp [enter, shut, exhausted]⟩)
    · exact .inr (.inr ⟨rfl, spare, by simp [enter, shut, Nat.ne_of_gt spare]⟩)

/-- Nobody inside a pool has the ticket that is given out next. -/
theorem Balanced.nextTicket_not_mem (balanced : pool.Balanced inHand) :
    pool.nextTicket ∉ pool.tickets :=
  fun inside => Nat.lt_irrefl _ (balanced.issued _ inside)

/-- One more caller with the next ticket is inside once, as all the others are. -/
theorem Balanced.tickets_of_perm (balanced : pool.Balanced inHand) {tickets : List Ticket}
    (same : tickets.Perm (pool.nextTicket :: pool.tickets)) :
    tickets.Nodup ∧ ∀ ticket ∈ tickets, ticket < pool.nextTicket + 1 := by
  refine ⟨same.nodup_iff.2 (List.nodup_cons.2 ⟨balanced.nextTicket_not_mem, balanced.distinct⟩),
    fun ticket member => ?_⟩
  -- The newcomer has the next number, and all the others are below it.
  rcases List.mem_cons.1 (same.mem_iff.1 member) with rfl | inside
  · exact Nat.lt_succ_self _
  · exact Nat.lt_succ_of_lt (balanced.issued ticket inside)

/-- Letting a caller in keeps the books. -/
theorem Sound.enter (sound : pool.Sound) : pool.enter.2.Sound := by
  have permits := sound.permits
  rcases pool.enter_cases with ⟨_, refused⟩ | ⟨accepting, exhausted, queued⟩ |
    ⟨accepting, spare, admitted⟩
  · rw [refused]
    exact sound
  · -- The queue grows by a ticket that nobody had.
    have callers : (pool.holders.map Prod.fst ++ (pool.waiting ++ [pool.nextTicket])).Perm
        (pool.nextTicket :: pool.tickets) := by
      rw [← List.append_assoc]
      exact List.perm_append_singleton _ _
    have inside := sound.tickets_of_perm callers
    rw [queued]
    refine { sound with served := ?_, distinct := inside.1, issued := inside.2, shut := ?_ }
    · intro spare
      exact absurd exhausted (Nat.ne_of_gt spare)
    · intro closed
      simp [accepting] at closed
  · -- A permit that was available belongs to the new holder, who has no connection yet.
    have callers : ((pool.holders ++ [(pool.nextTicket, Stage.granted)]).map Prod.fst ++
        pool.waiting).Perm (pool.nextTicket :: pool.tickets) := by
      rw [List.map_append, List.append_assoc]
      exact List.perm_middle
    have inside := sound.tickets_of_perm callers
    rw [admitted]
    refine ⟨?_, fun _ => sound.served spare, inside.1, inside.2, ?_, ?_, ?_, sound.shut⟩
    · simp only [List.length_append, List.length_singleton]
      -- The permit is held now in place of being available.
      omega
    · simpa [checkedOut, List.filterMap_cons] using sound.single
    · simpa [checkedOut, List.filterMap_cons] using sound.numbered
    · simpa [checkedOut, opening, List.filterMap_cons] using sound.bounded

/-- A caller without a permit leaves the queue, if it is still there. -/
theorem leave_of_waiting (held : pool.stage? ticket = none) :
    pool.leave ticket = { pool with waiting := pool.waiting.filter (· ≠ ticket) } := by
  simp [leave, held]

/-- A holder that leaves has its permit in hand until it is passed on. -/
theorem leave_of_holder (held : pool.stage? ticket = some stage) :
    pool.leave ticket =
      ({ pool.evict ticket with idle := pool.idleAfter stage } : Pool).releasePermit := by
  simp [leave, held, evict]

/-- What is idle once a holder has left depends on the stage that it had reached. -/
theorem idle_leave_of_holder (held : pool.stage? ticket = some stage) :
    (pool.leave ticket).idle = pool.idleAfter stage := by
  rw [leave_of_holder held, Pool.releasePermit]
  split <;> rfl

/-- Leaving keeps the books, whatever point a caller has reached. -/
theorem Sound.leave (sound : pool.Sound) (ticket : Ticket) : (pool.leave ticket).Sound := by
  cases held : pool.stage? ticket with
  | none =>
    -- The queue gets shorter, if it changes at all.
    have callers : (pool.leave ticket).tickets.Sublist pool.tickets := by
      rw [leave_of_waiting held]
      exact List.filter_sublist.append_left _
    have distinct := sound.distinct.sublist callers
    have issued := fun caller member => sound.issued caller (callers.subset member)
    rw [leave_of_waiting held] at distinct issued ⊢
    refine { sound with served := ?_, distinct, issued, shut := ?_ }
    · intro spare
      simp [sound.served spare]
    · intro closed
      simp [sound.shut closed]
  | some stage =>
    rw [leave_of_holder held]
    exact (sound.evict held).releasePermit

/-- The end of a caller's wait keeps the books. -/
theorem Sound.awaitPermit (sound : pool.Sound) (ticket : Ticket) :
    (pool.awaitPermit ticket).2.Sound := by
  unfold Pool.awaitPermit
  split
  -- A closed pool sends the caller away, and so does one whose permit has not come in time.
  · exact sound.leave ticket
  · split
    · exact sound
    · exact sound.leave ticket

/-- A caller with a permit takes an idle connection or starts to open one, and the books balance. -/
theorem Sound.takeIdle (sound : pool.Sound) (held : pool.stage? ticket = some .granted) :
    (pool.takeIdle ticket).2.Sound := by
  have bounded := sound.bounded
  have load := load_of_holders (holders_perm sound.holders_distinct held)
  unfold Pool.takeIdle
  cases stock : pool.idle with
  | nil =>
    refine Balanced.setStage sound held (fun _ taken => nomatch taken) ?_
    -- The caller holds a permit of its own, so the others cannot use up all of them.
    have permits := sound.permits
    have fewer := (holders_perm sound.holders_distinct held).length_eq
    have within := load_le_holders (pool.evict ticket)
    -- Of all permits one is the caller's own.
    simp only [List.length_cons] at fewer
    simp only [stock, List.length_nil, Stage.load]
    omega
  | cons connection rest =>
    -- First the connection is taken from the idle ones, then it is given to the caller.
    have remaining : ({ pool with idle := rest } : Pool).Sound := by
      have single := sound.single
      have numbered := sound.numbered
      rw [stock] at bounded single numbered
      refine { sound with single := ?_, numbered := ?_, bounded := ?_, shut := ?_ }
      · exact (List.nodup_cons.1 single).2
      · exact fun other member => numbered other (List.mem_cons_of_mem _ member)
      · show rest.length + pool.checkedOut.length + pool.opening ≤ capacity pool.config
        simp only [List.length_cons] at bounded
        omega
      · intro closed
        simp [(sound.shut closed).1] at stock
    have others := sound.single_others ticket
    rw [stock] at others
    refine Balanced.setStage remaining held (fun other taken => ?_) ?_
    · -- The connection was idle, so nobody else has it.
      cases taken
      exact ⟨(List.nodup_cons.1 others).1, sound.numbered connection (by simp [stock])⟩
    · rw [stock] at bounded
      show rest.length + (1 + ((pool.evict ticket).checkedOut.length +
        (pool.evict ticket).opening)) ≤ capacity pool.config
      simp only [List.length_cons, Stage.load] at bounded load
      omega

/-- However an attempt to open a connection ends, the books balance. -/
theorem Sound.opened (sound : pool.Sound) (held : pool.stage? ticket = some .opening)
    (outcome : Except ClientError Unit) : (pool.opened ticket outcome).Sound := by
  cases outcome with
  -- The caller is gone with its permit, as if it had left.
  | error error => exact sound.leave ticket
  | ok answer =>
    have bounded := sound.bounded
    have load := load_of_holders (holders_perm sound.holders_distinct held)
    -- The number of the new connection is used up before the connection is checked out.
    have counted : ({ pool with nextConnection := pool.nextConnection + 1 } : Pool).Sound :=
      { sound with
        numbered := fun other member => Nat.lt_succ_of_lt (sound.numbered other member) }
    refine Balanced.setStage counted held (fun other taken => ?_) ?_
    · -- The new connection has a number of its own.
      cases taken
      refine ⟨fun known => ?_, Nat.lt_succ_self _⟩
      exact Nat.lt_irrefl _ (sound.numbered_others ticket _ known)
    · show pool.idle.length + (1 + ((pool.evict ticket).checkedOut.length +
        (pool.evict ticket).opening)) ≤ capacity pool.config
      simp only [Stage.load] at load
      omega

/-- Whether a connection may be reused has no part in the books. -/
theorem Sound.mark (sound : pool.Sound) (ticket : Ticket) (broken : Bool) :
    (pool.mark ticket broken).Sound := by
  unfold Pool.mark
  split
  -- Only a caller with a connection has something to mark.
  · rename_i connection before held
    have single := sound.single
    have bounded := sound.bounded
    have holders := holders_perm sound.holders_distinct held
    have load := load_of_holders holders
    have own : connection ∈ pool.checkedOut :=
      (checkedOut_perm_of_holders holders).mem_iff.2 (by simp)
    refine Balanced.setStage sound held (fun other taken => ?_) ?_
    · cases taken
      -- The connection stays with the holder that had it before.
      have shares := connections_perm_of_holders pool.idle holders
      exact ⟨(List.nodup_cons.1 (shares.nodup_iff.1 single)).1,
        sound.numbered connection (List.mem_append_right _ own)⟩
    · simp only [Stage.load] at load ⊢
      omega
  -- Nobody else is touched by a mark without a connection.
  · exact sound

/-- Closing a pool keeps the books; the connections that are checked out stay in them. -/
theorem Sound.close (sound : pool.Sound) : pool.close.Sound := by
  unfold Pool.close
  split
  -- A pool is closed once.
  · exact sound
  · -- What is checked out stays with its holders; the idle connections and the queue are gone.
    have out : pool.checkedOut.Sublist (pool.idle ++ pool.checkedOut) :=
      List.sublist_append_right _ _
    have callers : (pool.holders.map Prod.fst ++ []).Sublist pool.tickets :=
      (List.nil_sublist _).append_left _
    have bounded := sound.bounded
    refine { sound with
      served := fun _ => rfl
      distinct := sound.distinct.sublist callers
      issued := fun caller member => sound.issued caller (callers.subset member)
      single := sound.single.sublist out
      numbered := fun other member => sound.numbered other (out.subset member)
      bounded := ?_
      shut := fun _ => ⟨rfl, rfl⟩ }
    show 0 + pool.checkedOut.length + pool.opening ≤ capacity pool.config
    omega

end Pool

end RedisCluster
