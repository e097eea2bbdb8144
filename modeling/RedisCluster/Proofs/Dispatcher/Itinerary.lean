import RedisCluster.Proofs.Client.Business
import RedisCluster.Proofs.Dispatcher.Chronicle
import RedisCluster.Proofs.Program.Midway

/-! The legs of a command: each attempt with the way to it, and what is done between one attempt and
the next. -/

namespace RedisCluster

open Program

namespace Attempt

/-- The result of a command whose attempt is not followed by another one. -/
def verdict? (attempt : Attempt) : Option (Except ClientError Frame) :=
  match attempt.outcome with
  | .error error => some (.error error)
  | .ok (.reply reply) => some (.ok reply)
  | _ => none

/-- An attempt decides its command by a reply, or by an error that is none of the connection. -/
theorem verdict?_eq_some_iff {attempt : Attempt} {result : Except ClientError Frame} :
    attempt.verdict? = some result ↔ attempt.outcome = result.map .reply := by
  unfold verdict?
  split
  · rename_i error failed
    cases result <;> simp [failed, Except.map]
  · rename_i reply replied
    cases result <;> simp [replied, Except.map]
  · -- Neither a redirect nor a failure of the connection is the outcome of a decided attempt.
    rename_i unfailed unreplied
    cases result with
    | error error => simpa [Except.map] using unfailed error
    | ok reply => simpa [Except.map] using unreplied reply

end Attempt

/-- An attempt of a command, the way to it, and the state that it leaves behind. -/
structure Leg where
  aiming : Trace
  attempt : Attempt
  finish : ClientState

namespace Dispatcher

/-- A leg is made from a state on, by a command that is on its way by some route, while others may
change the shared state before each step. -/
def MakesAmid (dispatcher : Dispatcher) (others : ClientState → ClientState → Prop)
    (slot : Option Nat) (frame : Frame) (route : Route) (start : ClientState) (leg : Leg) : Prop :=
  ∃ middle, Amid others (dispatcher.aim slot route) start leg.aiming
      (.ok (leg.attempt.pool, leg.attempt.asking)) middle ∧
    Amid others (attempt leg.attempt.pool frame leg.attempt.asking) middle leg.attempt.steps
      leg.attempt.outcome leg.finish

/-- What happens between an attempt and the next one: a permanent redirect is written to the table,
and a failure of the connection is answered by a rediscovery. -/
inductive PassesAmid (dispatcher : Dispatcher) (others : ClientState → ClientState → Prop)
    (progress : Progress) (attempt : Attempt) (state : ClientState) :
    Trace → Progress → ClientState → Prop where
  | moved {slot : Nat} {target : Endpoint} {owner : PoolRef} {before after : ClientState}
      (redirected : attempt.outcome = .ok (.moved slot target)) (meanwhile : others state before)
      (assigned : before.perform (.assign [slot] (dispatcher.translator.apply target)) () =
        (.ok owner, after)) :
      PassesAmid dispatcher others progress attempt state
        [⟨.assign [slot] (dispatcher.translator.apply target), .ok owner⟩]
        { route := .owner
          redirected := true
          lastError := some (.moved slot (dispatcher.translator.apply target).socketAddress)
          lastResponsive := some attempt.pool } after
  | asked {slot : Nat} {target : Endpoint} (redirected : attempt.outcome = .ok (.ask slot target)) :
      PassesAmid dispatcher others progress attempt state []
        { route := .asking (dispatcher.translator.apply target)
          redirected := true
          lastError := some (.ask slot (dispatcher.translator.apply target).socketAddress)
          lastResponsive := some attempt.pool } state
  | failed {error : ClientError} {between : Trace} {found : Rediscovery} {after : ClientState}
      (lost : attempt.outcome = .ok (.connectionFailure error))
      (rediscovered : Amid others
        (Discovery.rediscover dispatcher.translator progress.lastResponsive) state between found after) :
      PassesAmid dispatcher others progress attempt state between
        { progress with route := .owner, lastError := some error } after

/-- The legs that a command makes, one after the other, and its result. The trace is made up of the
steps of its legs and of those between them, and of no other steps. -/
inductive ItineraryAmid (dispatcher : Dispatcher) (others : ClientState → ClientState → Prop)
    (slot : Option Nat) (frame : Frame) :
    (remaining : Nat) → Progress → ClientState → List Leg → Trace → Except ClientError Frame →
      ClientState → Prop where
  | spent (progress : Progress) (state : ClientState) :
      ItineraryAmid dispatcher others slot frame 0 progress state [] []
        (.error (dispatcher.outOfAttempts progress)) state
  | lost {remaining : Nat} {progress : Progress} {state last : ClientState} {aiming : Trace}
      {error : ClientError}
      (aimed : Amid others (dispatcher.aim slot progress.route) state aiming (.error error) last) :
      ItineraryAmid dispatcher others slot frame (remaining + 1) progress state [] aiming
        (.error error) last
  | decided {remaining : Nat} {progress : Progress} {state : ClientState} {leg : Leg}
      {result : Except ClientError Frame}
      (made : dispatcher.MakesAmid others slot frame progress.route state leg)
      (ended : leg.attempt.verdict? = some result) :
      ItineraryAmid dispatcher others slot frame (remaining + 1) progress state [leg]
        (leg.aiming ++ leg.attempt.steps) result leg.finish
  | refused {remaining : Nat} {progress : Progress} {state before after : ClientState} {leg : Leg}
      {moved : Nat} {target : Endpoint} {error : ClientError}
      (made : dispatcher.MakesAmid others slot frame progress.route state leg)
      (redirected : leg.attempt.outcome = .ok (.moved moved target))
      (meanwhile : others leg.finish before)
      (refused : before.perform (.assign [moved] (dispatcher.translator.apply target)) () =
        (.error error, after)) :
      ItineraryAmid dispatcher others slot frame (remaining + 1) progress state [leg]
        (leg.aiming ++ (leg.attempt.steps ++
          [⟨.assign [moved] (dispatcher.translator.apply target), .error error⟩])) (.error error) after
  | on {remaining : Nat} {progress next : Progress} {state after last : ClientState} {leg : Leg}
      {legs : List Leg} {between rest : Trace} {result : Except ClientError Frame}
      (made : dispatcher.MakesAmid others slot frame progress.route state leg)
      (passes : dispatcher.PassesAmid others progress leg.attempt leg.finish between next after)
      (later : ItineraryAmid dispatcher others slot frame remaining next after legs rest result
        last) :
      ItineraryAmid dispatcher others slot frame (remaining + 1) progress state (leg :: legs)
        (leg.aiming ++ (leg.attempt.steps ++ (between ++ rest))) result last

/-- Legs of which each is followed by another attempt: the first part of an itinerary, with what it
has come to. -/
inductive Travels (dispatcher : Dispatcher) (others : ClientState → ClientState → Prop)
    (slot : Option Nat) (frame : Frame) :
    Progress → ClientState → List Leg → Trace → Progress → ClientState → Prop where
  | here (progress : Progress) (state : ClientState) :
      Travels dispatcher others slot frame progress state [] [] progress state
  | on {progress next reached : Progress} {state after now : ClientState} {leg : Leg}
      {legs : List Leg} {between rest : Trace}
      (made : dispatcher.MakesAmid others slot frame progress.route state leg)
      (passes : dispatcher.PassesAmid others progress leg.attempt leg.finish between next after)
      (later : Travels dispatcher others slot frame next after legs rest reached now) :
      Travels dispatcher others slot frame progress state (leg :: legs)
        (leg.aiming ++ (leg.attempt.steps ++ (between ++ rest))) reached now

/-- A leg of a command that runs alone. -/
abbrev Makes (dispatcher : Dispatcher) : Option Nat → Frame → Route → ClientState → Leg → Prop :=
  dispatcher.MakesAmid Eq

/-- What happens between two attempts of a command that runs alone. -/
abbrev Passes (dispatcher : Dispatcher) :
    Progress → Attempt → ClientState → Trace → Progress → ClientState → Prop :=
  dispatcher.PassesAmid Eq

/-- The legs and the result of a command that runs alone. -/
abbrev Itinerary (dispatcher : Dispatcher) :
    Option Nat → Frame → Nat → Progress → ClientState → List Leg → Trace →
      Except ClientError Frame → ClientState → Prop :=
  dispatcher.ItineraryAmid Eq

variable {others : ClientState → ClientState → Prop} {dispatcher : Dispatcher} {slot : Option Nat}
  {frame : Frame} {remaining : Nat} {progress : Progress} {state last : ClientState} {trace : Trace}
  {result : Except ClientError Frame}

/-- What follows an attempt is the end of the command, or the passage to the attempts behind it. -/
theorem follow_amid_iff {attempt : Attempt} :
    Amid others (dispatcher.follow slot frame remaining progress attempt.pool attempt.outcome) state
        trace result last ↔
      (attempt.verdict? = some result ∧ trace = [] ∧ last = state) ∨
      (∃ moved target before error, attempt.outcome = .ok (.moved moved target) ∧
        others state before ∧
        before.perform (.assign [moved] (dispatcher.translator.apply target)) () =
          (.error error, last) ∧
        trace = [⟨.assign [moved] (dispatcher.translator.apply target), .error error⟩] ∧
        result = .error error) ∨
      ∃ between next after rest, trace = between ++ rest ∧
        dispatcher.PassesAmid others progress attempt state between next after ∧
        Amid others (dispatcher.run slot frame remaining next) after rest result last := by
  -- Both ways the five outcomes of an attempt are gone through.
  rcases attempt with ⟨pool, asking, steps, outcome⟩
  constructor
  · intro run
    rcases outcome with error | (reply | ⟨moved, target⟩ | ⟨asked, target⟩ | error)
    -- An error and a reply end the command on the spot, without a step.
    · obtain ⟨rfl, rfl, rfl⟩ := amid_done_iff.1 run
      exact .inl ⟨rfl, rfl, rfl⟩
    · obtain ⟨rfl, rfl, rfl⟩ := amid_done_iff.1 run
      exact .inl ⟨rfl, rfl, rfl⟩
    · -- The table takes the new owner in, or it is closed and the command is over.
      obtain ⟨before, _, rest, meanwhile, rfl, assigning⟩ := amid_ask_iff.1 run
      cases assigned : before.perform (.assign [moved] (dispatcher.translator.apply target)) () with
      | mk answer after =>
        rw [assigned] at assigning
        cases answer with
        | error error =>
          obtain ⟨rfl, rfl, rfl⟩ := amid_done_iff.1 assigning
          exact .inr (.inl ⟨moved, target, before, error, rfl, meanwhile, assigned, rfl, rfl⟩)
        | ok owner =>
          exact .inr (.inr ⟨[_], _, after, rest, rfl, .moved rfl meanwhile assigned, assigning⟩)
    -- A temporary redirect is kept in mind only, so the next attempt begins right here.
    · exact .inr (.inr ⟨[], _, state, trace, rfl, .asked rfl, run⟩)
    -- After a failure of the connection the rediscovery comes in between, whatever it finds.
    · obtain ⟨between, rest, found, after, rfl, rediscovered, following⟩ := amid_bind_iff.1 run
      exact .inr (.inr ⟨between, _, after, rest, rfl, .failed rfl rediscovered, following⟩)
  -- Each of the three ends says what the outcome was, so the program is known and steps as said.
  · rintro (⟨ended, rfl, rfl⟩ | ⟨moved, target, before, error, redirected, meanwhile, refused, rfl,
      rfl⟩ | ⟨between, next, after, rest, rfl, passes, later⟩)
    · rcases outcome with error | (reply | ⟨moved, target⟩ | ⟨asked, target⟩ | error)
      · cases ended
        exact .done _ _
      · cases ended
        exact .done _ _
      -- Redirects and failures of the connection are no verdicts.
      · cases ended
      · cases ended
      · cases ended
    · obtain rfl : outcome = _ := redirected
      refine amid_ask_iff.2 ⟨before, (), [], meanwhile, by rw [refused], ?_⟩
      rw [refused]
      exact .done _ _
    -- The passage names the outcome, and with it the step that was taken, if there was one.
    · cases passes with
      | moved redirected meanwhile assigned =>
        obtain rfl : outcome = _ := redirected
        refine amid_ask_iff.2 ⟨_, (), rest, meanwhile, by rw [assigned]; rfl, ?_⟩
        rw [assigned]
        exact later
      | asked redirected =>
        obtain rfl : outcome = _ := redirected
        exact later
      | failed lost rediscovered =>
        obtain rfl : outcome = _ := lost
        exact amid_bind_iff.2 ⟨between, rest, _, after, rfl, rediscovered, later⟩

/-- A leg is followed by whatever its outcome calls for. -/
theorem MakesAmid.followed {leg : Leg} {rest : Trace}
    (made : dispatcher.MakesAmid others slot frame progress.route state leg)
    (following : Amid others (dispatcher.follow slot frame remaining progress leg.attempt.pool
      leg.attempt.outcome) leg.finish rest result last) :
    Amid others (dispatcher.run slot frame (remaining + 1) progress) state
      (leg.aiming ++ (leg.attempt.steps ++ rest)) result last := by
  -- The way, the attempt and what follows are put together as the command does it.
  obtain ⟨middle, aims, attempted⟩ := made
  rw [run_succ]
  exact amid_bind_iff.2 ⟨_, _, _, middle, rfl, aims,
    amid_bind_iff.2 ⟨_, _, _, _, rfl, attempted, following⟩⟩

/-- The runs of a command are its itineraries. -/
theorem run_amid_iff :
    Amid others (dispatcher.run slot frame remaining progress) state trace result last ↔
      ∃ legs, dispatcher.ItineraryAmid others slot frame remaining progress state legs trace result
        last := by
  constructor
  · -- Each leg uses up one attempt, so the induction is on the attempts that are left.
    intro run
    induction remaining generalizing progress state trace with
    | zero =>
      -- With no attempts left the command is over without a step.
      obtain ⟨rfl, rfl, rfl⟩ := amid_done_iff.1 run
      exact ⟨[], .spent progress _⟩
    | succ remaining ih =>
      rw [run_succ] at run
      obtain ⟨aiming, rest, aimed, middle, rfl, aims, attempting⟩ := amid_bind_iff.1 run
      -- No pool was found, or an attempt was made and its outcome decides how it goes on.
      rcases aimed with error | ⟨pool, asking⟩
      · obtain ⟨rfl, rfl, rfl⟩ := amid_done_iff.1 attempting
        rw [List.append_nil]
        exact ⟨[], .lost aims⟩
      · obtain ⟨steps, rest, outcome, finish, rfl, attempted, following⟩ :=
          amid_bind_iff.1 attempting
        let leg : Leg := ⟨aiming, ⟨pool, asking, steps, outcome⟩, finish⟩
        have made : dispatcher.MakesAmid others slot frame progress.route state leg :=
          ⟨middle, aims, attempted⟩
        have following : Amid others (dispatcher.follow slot frame remaining progress leg.attempt.pool
          leg.attempt.outcome) leg.finish rest result last := following
        rcases follow_amid_iff.1 following with ⟨ended, rfl, rfl⟩ |
          ⟨moved, target, before, error, redirected, meanwhile, refused, rfl, rfl⟩ |
          ⟨between, next, after, rest, rfl, passes, later⟩
        · rw [List.append_nil]
          exact ⟨[leg], .decided made ended⟩
        · exact ⟨[leg], .refused made redirected meanwhile refused⟩
        · obtain ⟨legs, later⟩ := ih later
          exact ⟨leg :: legs, .on made passes later⟩
  · -- The other way the legs are put together again.
    rintro ⟨legs, itinerary⟩
    induction itinerary with
    | spent progress state => exact .done _ _
    -- No pool was found, which is the last thing that happens.
    | lost aimed =>
      rw [run_succ]
      exact amid_bind_iff.2 ⟨_, [], _, _, (List.append_nil _).symm, aimed, .done _ _⟩
    | @decided remaining progress state leg result made ended =>
      have following : Amid others (dispatcher.follow slot frame remaining progress leg.attempt.pool
          leg.attempt.outcome) leg.finish [] result leg.finish :=
        follow_amid_iff.2 (.inl ⟨ended, rfl, rfl⟩)
      simpa only [List.append_nil] using made.followed following
    -- In the other three the leg is followed by what its outcome calls for.
    | refused made redirected meanwhile refused =>
      exact made.followed (follow_amid_iff.2
        (.inr (.inl ⟨_, _, _, _, redirected, meanwhile, refused, rfl, rfl⟩)))
    | on made passes later ih =>
      exact made.followed (follow_amid_iff.2 (.inr (.inr ⟨_, _, _, _, rfl, passes, ih⟩)))

/-- The attempt of a leg was really made. -/
theorem MakesAmid.ran {route : Route} {leg : Leg}
    (made : dispatcher.MakesAmid others slot frame route state leg) : leg.attempt.Ran others frame := by
  obtain ⟨middle, _, attempted⟩ := made
  exact ⟨middle, _, attempted⟩

/-- What every step keeps, a leg keeps. -/
theorem MakesAmid.keeps {invariant : ClientState → Prop} {route : Route} {leg : Leg}
    (kept : ∀ state op choice, invariant state → invariant (ClientState.perform state op choice).2)
    (made : dispatcher.MakesAmid ClientState.Later slot frame route state leg)
    (first : invariant state) : invariant leg.finish := by
  -- The invariant is carried through the way first, and then through the attempt.
  obtain ⟨middle, aims, attempted⟩ := made
  exact attempted.keeps kept (aims.keeps kept first)

/-- The way to an attempt is the client's own business. -/
theorem aim_business (dispatcher : Dispatcher) (slot : Option Nat) (route : Route) :
    (dispatcher.aim slot route).Business := by
  -- The look at the closed flag is such business, and so is the choice of a pool.
  refine ⟨rfl, fun closed => ?_⟩
  cases closed with
  | true => trivial
  | false => exact choose_business dispatcher slot route

namespace PassesAmid

variable {attempt : Attempt} {between : Trace} {next : Progress} {after : ClientState}

/-- What is done between two attempts is the client's own business. -/
theorem business (passes : dispatcher.PassesAmid others progress attempt state between next after) :
    ∀ exchange ∈ between, exchange.op.isBusiness = true := by
  -- Noting an owner is business, as is every step of a rediscovery.
  cases passes with
  | moved redirected meanwhile assigned => exact List.forall_mem_singleton.2 rfl
  | asked redirected => exact List.forall_mem_nil _
  | failed lost rediscovered => exact rediscovered.within (Discovery.rediscover_business _ _)

/-- What every step keeps, the passage from one attempt to the next keeps. -/
theorem keeps {invariant : ClientState → Prop}
    (kept : ∀ state op choice, invariant state → invariant (ClientState.perform state op choice).2)
    (passes : dispatcher.PassesAmid ClientState.Later progress attempt state between next after)
    (first : invariant state) : invariant after := by
  cases passes with
  -- Others may act before the owner is written down, and they keep the invariant as well.
  | @moved moved target _ _ _ redirected meanwhile assigned =>
    have written := kept _ (.assign [moved] (dispatcher.translator.apply target)) ()
      (meanwhile.keeps kept first)
    rwa [assigned] at written
  | asked redirected => exact first
  | failed lost rediscovered => exact rediscovered.keeps kept first

/-- Only redirects and failures of the connection are followed by another attempt. -/
theorem deflected (passes : dispatcher.PassesAmid others progress attempt state between next after)
    (ran : attempt.Ran others frame) : attempt.Deflected := by
  cases passes with
  | moved redirected meanwhile assigned => exact .inl (by simp [Attempt.isRedirected, redirected])
  | asked redirected => exact .inl (by simp [Attempt.isRedirected, redirected])
  -- That a failure is one of the connection is known from the attempt itself.
  | failed lost rediscovered => exact ran.deflected_of_failure lost

/-- An attempt that is followed by another one is noted down with its cause. -/
theorem noted (passes : dispatcher.PassesAmid others progress attempt state between next after) :
    next.redirected = (progress.redirected || attempt.isRedirected) ∧
      next.lastError = attempt.cause? dispatcher.translator := by
  cases passes with
  -- Each of the three sets down its own cause, and only a redirect sets the flag.
  | moved redirected meanwhile assigned =>
    simp [Attempt.isRedirected, Attempt.cause?, redirected]
  | asked redirected => simp [Attempt.isRedirected, Attempt.cause?, redirected]
  | failed lost rediscovered => simp [Attempt.isRedirected, Attempt.cause?, lost]

end PassesAmid

/-- Outside of its attempts a command goes about the client's own business. So whatever is read off a
trace that is none of that business comes from the attempts, in their order. -/
theorem ItineraryAmid.filterMap {α : Type} {legs : List Leg} {read : Exchange → Option α}
    (silent : ∀ exchange, exchange.op.isBusiness = true → read exchange = none)
    (itinerary : dispatcher.ItineraryAmid others slot frame remaining progress state legs trace result
      last) :
    trace.filterMap read = legs.flatMap (·.attempt.steps.filterMap read) := by
  -- What is business is not read, so neither the ways nor the passages show anything.
  have unread : ∀ {steps : Trace}, (∀ exchange ∈ steps, exchange.op.isBusiness = true) →
      steps.filterMap read = [] :=
    fun own => List.filterMap_eq_nil_iff.2 fun exchange member => silent exchange (own exchange member)
  have aimed : ∀ {route : Route} {start : ClientState} {leg : Leg},
      dispatcher.MakesAmid others slot frame route start leg → leg.aiming.filterMap read = [] := by
    rintro route start leg ⟨middle, aims, _⟩
    exact unread (aims.within (aim_business _ _ _))
  -- Leg by leg, only the steps of its attempt are left to be read.
  induction itinerary with
  | spent progress state => rfl
  | lost aims => exact unread (aims.within (aim_business _ _ _))
  | decided made ended => simp [List.filterMap_append, aimed made]
  | refused made redirected meanwhile refused =>
    -- The attempt to note the new owner is business as well, though it fails.
    have unwritten : ∀ slots node answer, read ⟨.assign slots node, answer⟩ = none :=
      fun slots node answer => silent _ rfl
    simp [List.filterMap_append, aimed made, unwritten]
  | on made passes later ih =>
    simp [List.filterMap_append, aimed made, unread passes.business, ih]

/-- What a command knows after some legs, of which each was followed by another attempt. -/
structure Reached (dispatcher : Dispatcher) (progress reached : Progress) (legs : List Leg) :
    Prop where
  redirected : reached.redirected = (progress.redirected || legs.any (·.attempt.isRedirected))
  lastError : reached.lastError =
    (legs.getLast?.map (·.attempt.cause? dispatcher.translator)).getD progress.lastError

namespace Reached

variable {next reached : Progress} {leg : Leg} {legs : List Leg} {between : Trace}
  {after : ClientState}

/-- Before any attempt nothing has changed. -/
theorem refl (dispatcher : Dispatcher) (progress : Progress) :
    Reached dispatcher progress progress [] :=
  ⟨by simp, rfl⟩

/-- The leg that comes first counts for the flag, and for the error if no other one comes. -/
theorem cons (passes : dispatcher.PassesAmid others progress leg.attempt state between next after)
    (later : Reached dispatcher next reached legs) :
    Reached dispatcher progress reached (leg :: legs) where
  redirected := by
    -- The flag is set by this leg or by a later one.
    rw [later.redirected, passes.noted.1, List.any_cons, Bool.or_assoc]
  lastError := by
    rw [later.lastError, passes.noted.2]
    cases legs with
    -- Its error is the last one, if it is the last leg.
    | nil => rfl
    | cons next others => rw [List.getLast?_cons_cons]; rfl

/-- The error after a leg that used up the last attempt names the cause of that leg, and whether any
leg was redirected. -/
theorem outOfAttempts (noted : Reached dispatcher progress reached (legs ++ [leg]))
    {cause : ClientError} (named : leg.attempt.cause? dispatcher.translator = some cause) :
    dispatcher.outOfAttempts reached =
      if progress.redirected || (legs ++ [leg]).any (·.attempt.isRedirected)
        then .tooManyRedirections dispatcher.maxRedirects cause
        else .clusterUnavailable dispatcher.maxRedirects cause := by
  -- The last error noted is that of the last leg.
  have last : reached.lastError = some cause := by
    rw [noted.lastError, List.getLast?_concat, Option.map_some, Option.getD_some, named]
  rw [Dispatcher.outOfAttempts, last, noted.redirected]
  rfl

end Reached

namespace Travels

variable {reached : Progress} {now : ClientState} {legs : List Leg}

/-- What a command knows after its travels is what its legs have shown. -/
theorem noted (travels : dispatcher.Travels others slot frame progress state legs trace reached now) :
    Reached dispatcher progress reached legs := by
  -- Legs that were made later are noted later, so the induction runs along the legs.
  induction travels with
  | here progress state => exact .refl dispatcher progress
  | on made passes later ih => exact .cons passes ih

/-- Each leg that was followed by another attempt was deflected. -/
theorem deflected
    (travels : dispatcher.Travels others slot frame progress state legs trace reached now) :
    ∀ leg ∈ legs, leg.attempt.Deflected := by
  -- It was followed by another attempt, which says by itself that it was deflected.
  induction travels with
  | here progress state => exact List.forall_mem_nil _
  | on made passes later ih => exact List.forall_mem_cons.2 ⟨passes.deflected made.ran, ih⟩

/-- A leg that is followed by another attempt goes at the end of those before it. -/
theorem concat {leg : Leg} {between : Trace} {next : Progress} {after : ClientState}
    (travels : dispatcher.Travels others slot frame progress state legs trace reached now)
    (made : dispatcher.MakesAmid others slot frame reached.route now leg)
    (passes : dispatcher.PassesAmid others reached leg.attempt leg.finish between next after) :
    dispatcher.Travels others slot frame progress state (legs ++ [leg])
      (trace ++ (leg.aiming ++ (leg.attempt.steps ++ between))) next after := by
  -- The legs are taken from the front, and the new one becomes the last of what is left of them.
  induction travels with
  | here progress state =>
    have single := Travels.on made passes (.here next after)
    rwa [List.append_nil] at single
  | on first onward _ ih =>
    have whole := Travels.on first onward (ih made passes)
    simpa only [List.append_assoc, List.cons_append] using whole

end Travels

end Dispatcher

end RedisCluster
