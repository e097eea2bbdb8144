import RedisCluster.Proofs.Client.Knowledge
import RedisCluster.Proofs.Dispatcher.Itinerary
import RedisCluster.Proofs.Dispatcher.RedirectChain

/-! What comes after a permanent redirect: the routing table has learned of it, and the next attempt is
aimed by the slot of the command alone. -/

namespace RedisCluster

open Program

namespace ClientState

/-- A routine step leaves an open client open unless it closes it. -/
theorem accepting_perform {state : ClientState} (accepting : state.topology.closed = false)
    (consistent : state.topology.Consistent) {op : Op} (routine : op.isRoutine = true)
    (stays : op ≠ .close) (choice : op.Choice) :
    (state.perform op choice).2.topology.closed = false := by
  -- A steady step leaves the flag as it is, and so do those that add nodes or move slots.
  cases op, choice using Op.steady_cases with
  | steady op choice steady => exact (steady_perform steady state choice).closed.trans accepting
  | register node => exact (Topology.Tidy.closed_register _ node).trans accepting
  | assign slots node => exact (Topology.assign_open accepting consistent slots node).1
  | rebuild ranges => exact (Topology.rebuild_open accepting consistent ranges).2.1
  -- Closing was excluded, and the other two are no routine.
  | close => exact absurd rfl stays
  | reset => simp [Op.isRoutine] at routine
  | closePool pool => simp [Op.isRoutine] at routine

end ClientState

namespace Client

variable {α : Type} {translator : Translator} {required : Trace → α → Prop} {program : Program α}
  {past trace : Trace} {value : α} {state last : ClientState}

/-- A program that keeps to the rules leaves a consistent table consistent. -/
theorem consistent_of_alone (conducts : program.Conducts (rules translator) required past)
    (run : Alone program state trace value last) (consistent : state.topology.Consistent) :
    last.topology.Consistent :=
  conducts.keeps (fun state => state.topology.Consistent) (fun _ _ => trivial) run
    (fun _ _ _ choice allowed consistent => ClientState.consistent_perform consistent
      (fun pool same => by simpa [same, Op.isRoutine] using routine_of_allowed allowed) choice)
    consistent

/-- A program that has done something already does not close the client. -/
theorem accepting_of_alone (begun : past ≠ [])
    (conducts : program.Conducts (rules translator) required past)
    (run : Alone program state trace value last) (consistent : state.topology.Consistent)
    (accepting : state.topology.closed = false) : last.topology.closed = false := by
  -- Whether a step may be refused depends on the table, so consistency is carried along.
  refine (conducts.keeps
    (fun state => state.topology.Consistent ∧ state.topology.closed = false) (fun _ _ => trivial) run
    (fun later state op choice allowed ⟨consistent, accepting⟩ => ?_) ⟨consistent, accepting⟩).2
  have routine := routine_of_allowed allowed
  refine ⟨ClientState.consistent_perform consistent
    (fun pool same => by simp [same, Op.isRoutine] at routine) choice,
    ClientState.accepting_perform accepting consistent routine ?_ choice⟩
  -- The rules allow closing only to a program that has done nothing yet.
  rintro rfl
  exact begun (List.append_eq_nil_iff.1 allowed).1

end Client

namespace Dispatcher

variable {dispatcher : Dispatcher} {slot : Option Nat} {frame : Frame} {remaining : Nat}
  {progress : Progress} {state last : ClientState} {trace : Trace}
  {result : Except ClientError Frame}

/-- A leg of an open client leaves it open, with a consistent table; slots that it is told about are
slots of the table. -/
theorem MakesAmid.settled {route : Route} {leg : Leg}
    (made : dispatcher.Makes slot frame route state leg) (consistent : state.topology.Consistent) :
    leg.finish.topology.Consistent ∧ leg.finish.topology.closed = false ∧
      ∀ moved target, leg.attempt.outcome = .ok (.moved moved target) → moved < slotCount := by
  obtain ⟨middle, aims, attempted⟩ := made
  -- The way begins with the look at the closed flag.
  obtain ⟨_, rest, same, choosing⟩ := alone_ask_iff.1 aims
  cases closed : state.topology.closed with
  | true =>
    -- No way leads out of a closed client.
    simp only [ClientState.perform, closed] at choosing
    obtain ⟨-, aimed, -⟩ := amid_done_iff.1 choosing
    cases aimed
  | false =>
    simp only [ClientState.perform, closed] at choosing
    -- What is left of the way and the attempt both keep to the rules of the client.
    have chosen : (dispatcher.choose slot route).Conducts (Client.rules dispatcher.translator) _
        [⟨.isClosed, false⟩] := Client.choose_conducts rfl slot route
    have tried : (attempt leg.attempt.pool frame leg.attempt.asking).Conducts
        (Client.rules dispatcher.translator) _ leg.aiming := Client.attempt_conducts _ _ _
    -- The look at the flag comes first, so neither the rest of the way nor the attempt closes anything.
    have begun : leg.aiming ≠ [] := same ▸ List.cons_ne_nil _ _
    have ready := Client.consistent_of_alone chosen choosing consistent
    have accepting := Client.accepting_of_alone (List.cons_ne_nil _ _) chosen choosing consistent closed
    refine ⟨Client.consistent_of_alone tried attempted ready,
      Client.accepting_of_alone begun tried attempted ready accepting, fun moved target redirected => ?_⟩
    -- A redirect is the meaning of some answer, and none names a slot past the table.
    obtain ⟨lease, request, answer, heard, judged⟩ :=
      (tried.required_of_amid (fun _ _ => trivial) attempted).2 moved target redirected
    exact Redirect.lt_of_moved judged

/-- With nobody else at work, what an attempt has told of a slot is noted. -/
theorem MakesAmid.unrefused {route : Route} {leg : Leg} {slots : List Nat} {node : Endpoint}
    {error : ClientError} {before after : ClientState}
    (made : dispatcher.Makes slot frame route state leg) (consistent : state.topology.Consistent)
    (meanwhile : leg.finish = before)
    (refused : before.perform (.assign slots node) () = (.error error, after)) : False := by
  subst meanwhile
  -- Only a closed table refuses, and the leg has left it open.
  obtain ⟨-, accepting, -⟩ := made.settled consistent
  rcases Topology.assign_cases leg.finish.topology slots node with ⟨shut, _⟩ | ⟨pool, grown, _, same⟩
  · simp [accepting] at shut
  · simp [ClientState.perform, ClientState.withTopology, same] at refused

/-- Between two attempts a consistent table stays consistent. -/
theorem PassesAmid.consistent {attempt : Attempt} {between : Trace} {next : Progress}
    {after : ClientState} (passes : dispatcher.Passes progress attempt state between next after)
    (consistent : state.topology.Consistent) : after.topology.Consistent := by
  -- Only noting an owner and rediscovering touch the table.
  cases passes with
  | @moved slot target owner _ after redirected meanwhile assigned =>
    cases meanwhile
    have kept := consistent.assign [slot] (dispatcher.translator.apply target)
    simp only [ClientState.perform, ClientState.withTopology, Prod.mk.injEq] at assigned
    rwa [← assigned.2]
  | asked redirected => exact consistent
  | failed lost rediscovered =>
    have conducts : (Discovery.rediscover dispatcher.translator progress.lastResponsive).Conducts
        (Client.rules dispatcher.translator) _ [] := Client.rediscover_conducts rfl _
    exact Client.consistent_of_alone conducts rediscovered consistent

/-- From any of its legs on, what is left of an itinerary is one with as many attempts less. -/
theorem ItineraryAmid.drop {earlier rest : List Leg} {leg : Leg}
    (itinerary : dispatcher.Itinerary slot frame remaining progress state (earlier ++ leg :: rest) trace
      result last) (consistent : state.topology.Consistent) :
    ∃ left reached now tail, earlier.length + left = remaining ∧ now.topology.Consistent ∧
      dispatcher.Itinerary slot frame left reached now (leg :: rest) tail result last := by
  -- Each of the earlier legs uses up one attempt.
  induction earlier generalizing remaining progress state trace with
  -- No leg comes before, so the itinerary is what is left of itself.
  | nil => exact ⟨remaining, progress, state, trace, Nat.zero_add _, consistent, itinerary⟩
  | cons first earlier ih =>
    rw [List.cons_append] at itinerary
    generalize ahead : earlier ++ leg :: rest = legs at itinerary
    cases itinerary with
    -- Other legs follow the first one, so the itinerary does not end with it.
    | decided made ended => simp at ahead
    | refused made redirected meanwhile refused => simp at ahead
    | on made passes later =>
      subst ahead
      obtain ⟨left, reached, now, tail, budget, consistent, rest⟩ :=
        ih later (passes.consistent (made.settled consistent).1)
      exact ⟨left, reached, now, tail, by simp only [List.length_cons]; omega, consistent, rest⟩

/-- Only a redirect for this once calls for `ASKING`. -/
theorem aim_plain {pool : PoolRef} {asking : Bool}
    (run : Alone (dispatcher.aim slot .owner) state trace (.ok (pool, asking)) last) :
    asking = false := by
  -- Whatever the search for an owner brings, it is used without the prefix.
  have yields : (dispatcher.aim slot .owner).Yields fun chosen =>
      ∀ pool asking, chosen = .ok (pool, asking) → asking = false := by
    intro state choice
    cases (state.perform .isClosed choice).1 with
    | true => exact nofun
    | false =>
      refine (yields_trivial (dispatcher.ownerPool slot)).bind fun found _ => ?_
      -- Without a pool there is no attempt to ask in.
      cases found with
      | error error => exact nofun
      | ok pool => rintro _ _ ⟨⟩; rfl
  exact run.yields yields pool asking rfl

/-- Without a slot an attempt goes to a node that has just shown that it is alive. -/
theorem aim_alive {pool : PoolRef} {asking : Bool}
    (run : Alone (dispatcher.aim none .owner) state trace (.ok (pool, asking)) last) :
    trace.FoundAlive pool := by
  have conducts : (dispatcher.aim none .owner).Conducts (Client.rules dispatcher.translator)
      (fun now chosen => ∀ pool asking, chosen = .ok (pool, asking) → now.FoundAlive pool) [] := by
    -- The rules of the client know what a sweep has heard, and without a slot the way is a sweep.
    refine Client.ask_conducts rfl fun closed _ => ?_
    cases closed with
    | true => exact nofun
    | false =>
      refine Client.fallback_conducts.bind fun now found ⟨_, alive⟩ => ?_
      cases found with
      | error error => exact nofun
      | ok pool => rintro _ _ ⟨⟩; exact alive pool rfl
  exact conducts.required_of_amid (fun _ _ => trivial) run pool asking rfl

/-- Where a command goes after a permanent redirect that is not the end of its budget: to the owner of
its slot, which is the node that the redirect has named if it has named that slot, and to any node
that is alive if it has no slot. -/
structure GoesOn (dispatcher : Dispatcher) (slot : Option Nat) (moved : Nat) (target : Endpoint)
    (finish : ClientState) (next? : Option Leg) : Prop where
  plain : ∀ next ∈ next?, next.attempt.asking = false
  named : slot = some moved → ∃ next ∈ next?,
    next.attempt.pool.endpoint.sameNode (dispatcher.translator.apply target) = true
  unnamed : ∀ own owner, slot = some own → own ≠ moved → finish.topology.owner own = some owner →
    ∃ next ∈ next?, next.attempt.pool = owner
  keyless : slot = none → ∀ next ∈ next?, next.aiming.FoundAlive next.attempt.pool

/-- A command that has attempts left aims at a pool, and the next leg, if it finds one, is there. -/
theorem ItineraryAmid.exists_aim {legs : List Leg}
    (itinerary : dispatcher.Itinerary slot frame (remaining + 1) progress state legs trace result last) :
    ∃ steps chosen middle, Alone (dispatcher.aim slot progress.route) state steps chosen middle ∧
      (∀ next ∈ legs.head?, chosen = .ok (next.attempt.pool, next.attempt.asking) ∧
        next.aiming = steps) ∧
      ∀ pool asking, chosen = .ok (pool, asking) → ∃ next ∈ legs.head?, next.attempt.pool = pool := by
  -- However a leg is followed, it is made first.
  have found : ∀ {leg : Leg} (rest : List Leg),
      dispatcher.Makes slot frame progress.route state leg →
      ∃ steps chosen middle, Alone (dispatcher.aim slot progress.route) state steps chosen middle ∧
        (∀ next ∈ (leg :: rest).head?, chosen = .ok (next.attempt.pool, next.attempt.asking) ∧
          next.aiming = steps) ∧
        ∀ pool asking, chosen = .ok (pool, asking) →
          ∃ next ∈ (leg :: rest).head?, next.attempt.pool = pool := by
    rintro leg rest ⟨middle, aims, _⟩
    refine ⟨_, _, middle, aims, ?_, ?_⟩
    · rintro _ ⟨⟩
      exact ⟨rfl, rfl⟩
    · rintro _ _ ⟨⟩
      exact ⟨leg, rfl, rfl⟩
  -- The way may also have failed, and then no leg is to be spoken of.
  cases itinerary with
  | lost aimed => exact ⟨_, _, _, aimed, nofun, nofun⟩
  | decided made ended => exact found [] made
  | refused made redirected meanwhile refused => exact found [] made
  | on made passes later => exact found _ made

/-- A leg that ends in a permanent redirect is followed by one that the table leads to. -/
theorem ItineraryAmid.goesOn {leg : Leg} {rest : List Leg} {moved : Nat} {target : Endpoint}
    (itinerary : dispatcher.Itinerary slot frame (remaining + 2) progress state (leg :: rest) trace
      result last) (consistent : state.topology.Consistent)
    (redirected : leg.attempt.outcome = .ok (.moved moved target)) :
    dispatcher.GoesOn slot moved target leg.finish rest.head? := by
  cases itinerary with
  | decided made ended => simp [Attempt.verdict?, redirected] at ended
  | refused made again meanwhile refused =>
    exact (made.unrefused consistent meanwhile refused).elim
  | @on _ _ next _ after _ _ _ between _ _ made passes later =>
    obtain ⟨consistent, accepting, inside⟩ := made.settled consistent
    have inside := inside moved target redirected
    cases passes with
    | asked again => simp [redirected] at again
    | failed lost rediscovered => simp [redirected] at lost
    | @moved slot' target' owner _ _ again meanwhile assigned =>
      cases meanwhile
      obtain ⟨rfl, rfl⟩ : moved = slot' ∧ target = target' := by simpa [redirected] using again
      -- The one slot has its new owner now, and the others have the owners that they had.
      obtain ⟨still, -, -, owners⟩ := Topology.assign_open accepting consistent [moved]
        (dispatcher.translator.apply target)
      have written : (leg.finish.topology.assign [moved] (dispatcher.translator.apply target)).2 =
          after.topology := congrArg (·.2.topology) assigned
      rw [written] at still owners
      -- The next leg is aimed by this table, whatever the redirect has named.
      obtain ⟨steps, chosen, middle, aims, agrees, finds⟩ := later.exists_aim
      refine ⟨fun next there => ?_, ?_, ?_, ?_⟩
      · obtain ⟨rfl, -⟩ := agrees next there
        exact aim_plain aims
      · rintro rfl
        have given := owners moved inside
        rw [if_pos (List.mem_singleton_self _)] at given
        obtain ⟨pool, owns, same⟩ := given
        obtain ⟨next, there, rfl⟩ := finds pool false (aim_owned still owns aims).1
        exact ⟨next, there, same⟩
      · rintro own owner rfl apart owns
        have kept := owners own (Topology.lt_of_owner owns)
        rw [if_neg (by simpa using apart)] at kept
        exact finds owner false (aim_owned still (kept.trans owns) aims).1
      · rintro rfl next there
        obtain ⟨rfl, rfl⟩ := agrees next there
        exact aim_alive aims

/-- The runs of a command are its itineraries, and each of their legs that ends in a permanent redirect,
with an attempt left, is followed by an attempt without `ASKING` at the node that the table has for the
command: the node that the redirect has named if the command's slot is the one that was moved, the
owner of its slot otherwise, and any node that is alive if it has no slot. -/
theorem execute_after_moved {command : Command} (routable : command.slot = .ok slot)
    (consistent : state.topology.Consistent)
    (run : Alone (dispatcher.execute command) state trace result last) :
    (∃ legs, dispatcher.Itinerary slot command.toFrame dispatcher.maxRedirects {} state legs trace result
      last) ∧
    ∀ legs, dispatcher.Itinerary slot command.toFrame dispatcher.maxRedirects {} state legs trace result
        last →
      ∀ earlier leg rest moved target, legs = earlier ++ leg :: rest →
        earlier.length + 1 < dispatcher.maxRedirects →
        leg.attempt.outcome = .ok (.moved moved target) →
        dispatcher.GoesOn slot moved target leg.finish rest.head? := by
  -- A command that can be routed is its attempts.
  unfold execute at run
  rw [routable] at run
  refine ⟨run_amid_iff.1 run, ?_⟩
  rintro _ itinerary earlier leg rest moved target rfl within redirected
  obtain ⟨left, reached, now, tail, budget, consistent, behind⟩ := itinerary.drop consistent
  -- One attempt is used up by the leg, and another one is left.
  obtain ⟨spare, rfl⟩ : ∃ spare, left = spare + 2 := ⟨left - 2, by omega⟩
  exact behind.goesOn consistent redirected

/-- Nodes of which one refers every command to another one, for slot 3, while the others reply to it. -/
def referring : (op : Op) → op.Choice :=
  -- Every connection can be opened, and only the node on port 7000 refers to another one.
  Op.surroundings (fun _ => .ok ()) fun lease request =>
    match request, lease.endpoint.port with
    | .command _, 7000 => .ok (.error "MOVED 3 127.0.0.1:7001")
    | .command _, _ => .ok .ok
    | _, _ => .ok (.simple "PONG")

/-- A leg among those nodes, at the pool that the way leads to. -/
def legAt (pool : PoolRef) (slot : Option Nat) (frame : Frame) (start : ClientState) : Leg :=
  let aimed := play referring ((Dispatcher.new .identity 2).aim slot .owner) start
  -- The way is played first, and the attempt after it, in the state that the way has led to.
  let made := play referring (attempt pool frame false) aimed.2.1
  ⟨aimed.2.2, ⟨pool, false, made.2.2, made.1⟩, made.2.1⟩

/-- If the way leads to the pool, the leg can be made. -/
theorem makes_legAt {start : ClientState} {pool : PoolRef}
    (aimed : (play referring ((Dispatcher.new .identity 2).aim slot .owner) start).1 =
      .ok (pool, false)) :
    (Dispatcher.new .identity 2).Makes slot frame .owner start (legAt pool slot frame start) := by
  refine ⟨_, ?_, alone_play _ _ _⟩
  have aims := alone_play referring ((Dispatcher.new .identity 2).aim slot .owner) start
  rwa [aimed] at aims

/-- What the client knows when it has noted the new owner of slot 3. -/
def corrected (leg : Leg) : ClientState :=
  (leg.finish.perform (.assign [3] ⟨"127.0.0.1", 7001⟩) ()).2

/-- What a command knows that was referred to the new owner. -/
def afterReferral (pool : PoolRef) : Progress where
  redirected := true
  lastError := some (.moved 3 (⟨"127.0.0.1", 7001⟩ : Endpoint).socketAddress)
  lastResponsive := some pool

/-- It goes on from there. -/
theorem ItineraryAmid.referred (progress : Progress) (straight : progress.route = .owner) {leg : Leg}
    {owner : PoolRef} {legs : List Leg} {rest : Trace}
    (made : (Dispatcher.new .identity 2).Makes slot frame .owner state leg)
    (redirected : leg.attempt.outcome = .ok (.moved 3 ⟨"127.0.0.1", 7001⟩))
    (assigned : (leg.finish.perform (.assign [3] ⟨"127.0.0.1", 7001⟩) ()).1 = .ok owner)
    (later : (Dispatcher.new .identity 2).Itinerary slot frame remaining (afterReferral leg.attempt.pool)
      (corrected leg) legs rest result last) :
    ∃ trace, (Dispatcher.new .identity 2).Itinerary slot frame (remaining + 1) progress state
      (leg :: legs) trace result last := by
  -- One passage joins the first leg to those that come later.
  rw [← straight] at made
  have passes : (Dispatcher.new .identity 2).Passes progress leg.attempt leg.finish _
      (afterReferral leg.attempt.pool) (corrected leg) := .moved redirected rfl (Prod.ext assigned rfl)
  exact ⟨_, .on made passes later⟩

/-- The first leg of a command of an outdated client, at the node that refers it to the new owner. -/
def firstLeg (slot : Option Nat) (frame : Frame) : Leg :=
  legAt ⟨0, ⟨"127.0.0.1", 7000⟩⟩ slot frame outdated

/-- A command for the slot that was moved is sent to the node that the redirect has named. -/
theorem execute_after_moved_to_new_owner :
    let frame := (Command.get (Utf8.encode "raw")).toFrame
    ∃ trace last next,
      (Dispatcher.new .identity 2).Itinerary (some 3) frame 2 {} outdated [firstLeg (some 3) frame, next]
        trace (.ok .ok) last ∧
      (firstLeg (some 3) frame).attempt.outcome = .ok (.moved 3 ⟨"127.0.0.1", 7001⟩) ∧
      next.attempt.asking = false ∧
      next.attempt.pool.endpoint.sameNode ⟨"127.0.0.1", 7001⟩ = true := by
  -- All steps of the two legs are computed, up to the reply of the second one.
  intro frame
  have made : (Dispatcher.new .identity 2).Makes (some 3) frame .owner outdated
      (firstLeg (some 3) frame) := makes_legAt (by decide +kernel)
  have redirected : (firstLeg (some 3) frame).attempt.outcome =
      .ok (.moved 3 ⟨"127.0.0.1", 7001⟩) := by
    decide +kernel
  have assigned : ((firstLeg (some 3) frame).finish.perform (.assign [3] ⟨"127.0.0.1", 7001⟩) ()).1 =
      .ok ⟨1, ⟨"127.0.0.1", 7001⟩⟩ := by
    decide +kernel
  have onward : (Dispatcher.new .identity 2).Makes (some 3) frame .owner
      (corrected (firstLeg (some 3) frame)) (legAt ⟨1, ⟨"127.0.0.1", 7001⟩⟩ (some 3) frame
        (corrected (firstLeg (some 3) frame))) := makes_legAt (by decide +kernel)
  have replied : (legAt ⟨1, ⟨"127.0.0.1", 7001⟩⟩ (some 3) frame
      (corrected (firstLeg (some 3) frame))).attempt.verdict? = some (.ok .ok) := by
    decide +kernel
  obtain ⟨trace, itinerary⟩ := ItineraryAmid.referred {} rfl made redirected assigned
    (.decided onward replied)
  -- Put together the legs are a run of the command, to which the theorem applies.
  have keyed : (Command.get (Utf8.encode "raw")).slot = .ok (some 3) := by decide +kernel
  have consistent : outdated.topology.Consistent := (Topology.consistent_new {}).assign [3] _
  obtain ⟨last, itinerary⟩ : ∃ last, (Dispatcher.new .identity 2).Itinerary (some 3) frame 2 {}
      outdated _ trace (.ok .ok) last := ⟨_, itinerary⟩
  have run : Alone ((Dispatcher.new .identity 2).execute (.get (Utf8.encode "raw"))) outdated trace
      (.ok .ok) last := by
    rw [execute, keyed]
    exact run_amid_iff.2 ⟨_, itinerary⟩
  obtain ⟨-, follows⟩ := execute_after_moved keyed consistent run
  have goes := follows _ itinerary [] _ _ 3 ⟨"127.0.0.1", 7001⟩ rfl (by decide) redirected
  -- The next leg is the second one, for there is one attempt left.
  obtain ⟨next, same, named⟩ := goes.named rfl
  obtain rfl := Option.some.inj same
  exact ⟨trace, last, _, itinerary, redirected, goes.plain _ rfl, named⟩

/-- A command without a slot goes back to the node that has just referred it to another one, and it
fails although the other node would reply to it. -/
theorem referred_back_without_slot :
    let frame := Command.ping.toFrame
    ∃ trace error last next,
      Alone ((Dispatcher.new .identity 2).execute .ping) outdated trace (.error error) last ∧
      (Dispatcher.new .identity 2).Itinerary none frame 2 {} outdated [firstLeg none frame, next] trace
        (.error error) last ∧
      (firstLeg none frame).attempt.outcome = .ok (.moved 3 ⟨"127.0.0.1", 7001⟩) ∧
      next.attempt.pool.endpoint = ⟨"127.0.0.1", 7000⟩ ∧
      next.attempt.pool.endpoint.sameNode ⟨"127.0.0.1", 7001⟩ = false := by
  intro frame
  -- Without a slot the way leads to the node that is alive first: the one that referred before.
  have made : (Dispatcher.new .identity 2).Makes none frame .owner outdated
      (firstLeg none frame) := makes_legAt (by decide +kernel)
  have redirected : (firstLeg none frame).attempt.outcome = .ok (.moved 3 ⟨"127.0.0.1", 7001⟩) := by
    decide +kernel
  have assigned : ((firstLeg none frame).finish.perform (.assign [3] ⟨"127.0.0.1", 7001⟩) ()).1 =
      .ok ⟨1, ⟨"127.0.0.1", 7001⟩⟩ := by
    decide +kernel
  -- The second leg is only named, since computing with all of it at once would take long.
  obtain ⟨next, same⟩ : ∃ next, next = legAt ⟨0, ⟨"127.0.0.1", 7000⟩⟩ none frame
    (corrected (firstLeg none frame)) := ⟨_, rfl⟩
  have back : (Dispatcher.new .identity 2).Makes none frame .owner (corrected (firstLeg none frame))
      next := same ▸ makes_legAt (by decide +kernel)
  have again : next.attempt.outcome = .ok (.moved 3 ⟨"127.0.0.1", 7001⟩) := by
    rw [same]
    decide +kernel
  have reassigned : (next.finish.perform (.assign [3] ⟨"127.0.0.1", 7001⟩) ()).1 =
      .ok ⟨1, ⟨"127.0.0.1", 7001⟩⟩ := by
    rw [same]
    decide +kernel
  have there : next.attempt.pool.endpoint = ⟨"127.0.0.1", 7000⟩ := by rw [same]; rfl
  -- The second attempt is referred on as well, and there is no third one.
  obtain ⟨rest, later⟩ := ItineraryAmid.referred
    (afterReferral (firstLeg none frame).attempt.pool) rfl back again reassigned (.spent _ _)
  obtain ⟨trace, itinerary⟩ := ItineraryAmid.referred {} rfl made redirected assigned later
  -- The two legs use up both attempts, so the command fails.
  have keyed : Command.ping.slot = .ok none := rfl
  refine ⟨trace, _, _, next, ?_, itinerary, redirected, there, by rw [there]; decide +kernel⟩
  rw [execute, keyed]
  exact run_amid_iff.2 ⟨_, itinerary⟩

end Dispatcher

end RedisCluster
