import RedisCluster.Proofs.Discovery.Record
import RedisCluster.Proofs.Dispatcher.Asking

/-! What a command leaves behind in the routing table: what it was told on its way, and nothing else. -/

namespace RedisCluster

/-- The nodes that a route names. -/
def Route.targets : Route → List Endpoint
  | .owner => []
  | .asking target => [target]

namespace Trace

variable {translator : Translator} {front back trace : Trace}

/-- The layouts of a trace are those of rediscoveries within it that have refreshed the table. -/
def Refreshes (translator : Translator) (trace : Trace) : Prop :=
  ∀ ranges ∈ trace.layouts translator, ∃ front part back preferred node start finish,
    trace = front ++ (part ++ back) ∧ part.layouts translator = [ranges] ∧
      Program.Alone (Discovery.rediscover translator preferred) start part (.refreshed node) finish

namespace Refreshes

/-- A trace without layouts needs no rediscovery. -/
theorem of_unmapped (unmapped : trace.layouts translator = []) : trace.Refreshes translator := by
  simp [Refreshes, unmapped]

/-- A rediscovery within one of two traces is one within both of them. -/
theorem append (first : front.Refreshes translator) (second : back.Refreshes translator) :
    (front ++ back).Refreshes translator := by
  -- A layout of both comes from one of the two, and what surrounds its rediscovery only grows.
  intro ranges member
  rcases List.mem_append.1 (layouts_append translator front back ▸ member) with early | late
  · obtain ⟨before, part, after, preferred, node, start, finish, rfl, rest⟩ := first ranges early
    exact ⟨before, part, after ++ back, preferred, node, start, finish,
      by simp only [List.append_assoc], rest⟩
  · obtain ⟨before, part, after, preferred, node, start, finish, rfl, rest⟩ := second ranges late
    exact ⟨front ++ before, part, after, preferred, node, start, finish,
      by simp only [List.append_assoc], rest⟩

/-- The layout of a rediscovery is its own. -/
theorem of_rediscover {preferred : Option PoolRef} {outcome : Rediscovery}
    {state last : ClientState} (consistent : state.topology.Consistent)
    (accepting : state.topology.closed = false)
    (run : Program.Alone (Discovery.rediscover translator preferred) state trace outcome last) :
    trace.Refreshes translator := by
  -- What a rediscovery records says how many layouts it has loaded: one, or none.
  obtain ⟨_, count⟩ := Discovery.rediscover_recorded [] consistent accepting run
  intro ranges member
  cases outcome with
  | refreshed node =>
    -- There is one layout, and this is it.
    obtain ⟨only, mapped⟩ := List.length_eq_one_iff.1 count
    rw [mapped, List.mem_singleton] at member
    exact ⟨[], trace, [], preferred, node, state, last, (List.append_nil trace).symm,
      member ▸ mapped, run⟩
  -- Without a refreshed table no layout was loaded, so there is nothing to find a source for.
  | alreadyInProgress => simp [List.length_eq_zero_iff.1 count] at member
  | exhausted => simp [List.length_eq_zero_iff.1 count] at member

end Refreshes

end Trace

/-- What a trace has told is what has become of the routing table, and the layouts in it are those of
rediscoveries. -/
structure Footprint (translator : Translator) (told : List Endpoint) (state : ClientState)
    (trace : Trace) (last : ClientState) : Prop extends
    Recorded translator told state trace last where
  sourced : trace.Refreshes translator

namespace Footprint

variable {translator : Translator} {told : List Endpoint} {state middle last : ClientState}
  {front back trace : Trace}

/-- Steady steps leave no footprint if they tell of no owner. -/
theorem of_steady (consistent : state.topology.Consistent)
    (steady : state.topology.Steady last.topology)
    (unmoved : ∀ moved target, Signal.moved moved target ∉ trace.redirects)
    (unmapped : trace.layouts translator = []) : Footprint translator told state trace last :=
  ⟨.of_steady consistent steady unmoved unmapped, .of_unmapped unmapped⟩

/-- What was told before counts for what is told later. -/
theorem trans (first : Footprint translator told state front middle)
    (second : Footprint translator (told ++ front.named translator) middle back last) :
    Footprint translator told state (front ++ back) last :=
  ⟨first.toRecorded.trans second.toRecorded, first.sourced.append second.sourced⟩

/-- Who may have been told more is told no less. -/
theorem mono {more : List Endpoint} (footprint : Footprint translator told state trace last)
    (within : told ⊆ more) : Footprint translator more state trace last :=
  ⟨footprint.toRecorded.mono within, footprint.sourced⟩

/-- A step aside may come first. -/
theorem cons {op : Op} (aside : op.isAside = true) (choice : op.Choice)
    (consistent : state.topology.Consistent)
    (later : Footprint translator told (state.perform op choice).2 trace last) :
    Footprint translator told state (⟨op, (state.perform op choice).1⟩ :: trace) last := by
  -- A step aside is steady and silent: it neither changes the table nor hears of a node.
  obtain ⟨steady, silent⟩ := Bool.and_eq_true_iff.1 aside
  have uninformed : Trace.Uninformed [⟨op, (state.perform op choice).1⟩] :=
    .single (by simpa using silent)
  have first : Footprint translator told state [⟨op, (state.perform op choice).1⟩]
      (state.perform op choice).2 :=
    .of_steady consistent (ClientState.steady_perform steady state choice)
      (Trace.unmoved_of_unreferred uninformed.redirects) (uninformed.layouts translator)
  -- It has told nothing, so no more counts as told for what comes later.
  exact first.trans (later.mono (List.subset_append_left _ _))

end Footprint

namespace Dispatcher

open Program

variable {dispatcher : Dispatcher} {slot : Option Nat} {frame : Frame} {state last : ClientState}
  {steps trace : Trace} {told : List Endpoint}

/-- Looking for a node that is alive leaves no footprint. -/
theorem fallback_footprint {outcome : Except ClientError PoolRef} {translator : Translator}
    (consistent : state.topology.Consistent) (run : Alone fallback state steps outcome last) :
    Footprint translator told state steps last := by
  -- Sounding a node is a step aside, whatever its answer.
  have aside : fallback.Within fun op => op.isAside = true :=
    fallback_sounding.mono fun _ => Op.aside_of_sounding
  obtain ⟨steady, uninformed⟩ := aside_of_alone run aside
  exact .of_steady consistent steady (Trace.unmoved_of_unreferred uninformed.redirects)
    (uninformed.layouts translator)

/-- Finding the owner of a slot writes down the layout that is loaded on the way, if one is. -/
theorem ownerPool_footprint {outcome : Except ClientError PoolRef}
    (consistent : state.topology.Consistent) (accepting : state.topology.closed = false)
    (run : Alone (dispatcher.ownerPool slot) state steps outcome last) :
    Footprint dispatcher.translator told state steps last := by
  -- A command without keys has no slot to look up.
  cases slot with
  | none => exact fallback_footprint consistent run
  | some slot =>
    obtain ⟨_, rest, rfl, looked⟩ := alone_ask_iff.1 run
    refine .cons rfl () consistent ?_
    -- Looking up an owner changes nothing, so the rest runs from the state it began in.
    have same : (state.perform (.owner slot) ()).2 = state := rfl
    rw [same]
    -- With an owner the slot is served, and nothing has been written down.
    cases owned : (state.perform (.owner slot) ()).1 with
    | some owner =>
      rw [owned] at looked
      obtain ⟨rfl, _, rfl⟩ := amid_done_iff.1 looked
      exact .of_steady consistent (.refl _) nofun rfl
    | none =>
      rw [owned] at looked
      -- Without one the nodes are counted: if none is known there is nobody to ask for a layout.
      obtain ⟨_, rest, rfl, counted⟩ := alone_ask_iff.1 looked
      refine .cons rfl () consistent ?_
      simp only [bind_done] at counted
      split at counted
      · exact fallback_footprint consistent counted
      -- Otherwise a rediscovery has its say, and only that one may load a layout.
      · obtain ⟨loading, rest, outcome, middle, rfl, rediscovered, again⟩ := amid_bind_iff.1 counted
        obtain ⟨recorded, _⟩ := Discovery.rediscover_recorded told consistent accepting rediscovered
        have first : Footprint dispatcher.translator told state loading middle :=
          ⟨recorded, .of_rediscover consistent accepting rediscovered⟩
        refine first.trans ?_
        -- The slot is looked up once more, and without an owner it is any node that is alive.
        obtain ⟨_, rest, rfl, found⟩ := alone_ask_iff.1 again
        refine .cons rfl () first.consistent ?_
        cases reowned : (middle.perform (.owner slot) ()).1 with
        | some owner =>
          rw [reowned] at found
          obtain ⟨rfl, _, rfl⟩ := amid_done_iff.1 found
          exact .of_steady first.consistent (.refl _) nofun rfl
        | none =>
          rw [reowned] at found
          exact fallback_footprint first.consistent found

/-- The way to an attempt writes down the layout that is loaded on it, if one is, and the node that a
temporary redirect has named. -/
theorem aim_footprint {route : Route} {aimed : Except ClientError (PoolRef × Bool)}
    (consistent : state.topology.Consistent)
    (run : Alone (dispatcher.aim slot route) state steps aimed last) :
    Footprint dispatcher.translator route.targets state steps last := by
  -- The first step asks whether the client is closed; a closed one goes nowhere.
  obtain ⟨_, rest, rfl, looked⟩ := alone_ask_iff.1 run
  refine .cons rfl () consistent ?_
  cases closed : (state.perform .isClosed ()).1 with
  | true =>
    rw [closed] at looked
    obtain ⟨rfl, _, rfl⟩ := amid_done_iff.1 looked
    exact .of_steady consistent (.refl _) nofun rfl
  | false =>
    rw [closed] at looked
    have accepting : state.topology.closed = false := closed
    have chosen : Alone (dispatcher.choose slot route) state rest aimed last := looked
    -- An open client is aimed by its route: at the owner of the slot, or at the target named
    -- before.
    cases route with
    | owner =>
      obtain ⟨looking, rest, found, middle, rfl, owned, judged⟩ := amid_bind_iff.1 chosen
      obtain ⟨rfl, _, rfl⟩ := amid_done_iff.1 judged
      -- What is judged about the owner found takes no step.
      rw [List.append_nil]
      exact ownerPool_footprint consistent accepting owned
    | asking target =>
      obtain ⟨_, rest, rfl, found⟩ := alone_ask_iff.1 chosen
      refine .cons rfl () consistent ?_
      cases known : (state.perform (.lookup target) ()).1 with
      -- A target that is known already costs one look, and leaves nothing behind.
      | some pool =>
        rw [known] at found
        obtain ⟨rfl, _, rfl⟩ := amid_done_iff.1 found
        exact .of_steady consistent (.refl _) nofun rfl
      | none =>
        rw [known] at found
        -- An unknown one is registered, which is the only trace a temporary redirect leaves.
        obtain ⟨_, rest, rfl, registered⟩ := alone_ask_iff.1 found
        obtain ⟨rfl, _, rfl⟩ := amid_done_iff.1 registered
        exact ⟨.of_register consistent target, .of_unmapped rfl⟩

/-- The node of a temporary redirect is known as soon as the next attempt is aimed. -/
theorem knows_of_aim {target : Endpoint} {aimed : Except ClientError (PoolRef × Bool)}
    (consistent : state.topology.Consistent) (accepting : state.topology.closed = false)
    (run : Alone (dispatcher.aim slot (.asking target)) state steps aimed last) :
    last.topology.Knows target := by
  -- The client is open, so the first step lets the choice go on.
  obtain ⟨_, rest, rfl, looked⟩ := alone_ask_iff.1 run
  have closed : (state.perform .isClosed ()).1 = false := accepting
  rw [closed] at looked
  have chosen : Alone (dispatcher.choose slot (.asking target)) state rest aimed last := looked
  obtain ⟨_, rest, rfl, found⟩ := alone_ask_iff.1 chosen
  -- The target is known, or it is being registered now.
  cases known : (state.perform (.lookup target) ()).1 with
  | some pool =>
    rw [known] at found
    have known : state.topology.lookup target = some pool := known
    obtain ⟨_, _, rfl⟩ := amid_done_iff.1 found
    -- A node that is found under the key of the target is the same node.
    exact ⟨pool, List.mem_map.2 ⟨_, Topology.mem_of_node? known, rfl⟩,
      Endpoint.sameNode_iff.2 (consistent.nodeKey_of_lookup known)⟩
  | none =>
    rw [known] at found
    obtain ⟨_, rest, rfl, registered⟩ := alone_ask_iff.1 found
    obtain ⟨_, _, rfl⟩ := amid_done_iff.1 registered
    -- An open table registers a node that it does not know.
    rcases Topology.register_cases state.topology target with
      ⟨shut, _⟩ | ⟨_, _, found, _⟩ | ⟨_, _, made⟩
    · simp [accepting] at shut
    · exact absurd (found.symm.trans known) (by simp)
    · show (state.topology.register target).2.Knows target
      have knows := Topology.knows_of_register consistent made
      rwa [made]

/-- An attempt leaves the table alone. It brings in no layout, and the redirect that it ends with, if it
ends with one. -/
theorem attempt_told {pool : PoolRef} {asking : Bool} {outcome : Except ClientError Signal}
    (translator : Translator)
    (run : Alone (attempt pool frame asking) state steps outcome last) :
    state.topology.Steady last.topology ∧ steps.redirects = (Signal.redirect? outcome).toList ∧
      steps.layouts translator = [] := by
  -- An attempt is acquiring a connection, conversing over it and releasing it, in this order.
  obtain ⟨aside, released⟩ := Discovery.reading_aside pool
  obtain ⟨acquiring, rest, acquired, middle, rfl, acquire, trying⟩ := amid_bind_iff.1 run
  obtain ⟨first, uninformed⟩ := aside_of_alone acquire aside
  -- Without a connection nobody has been heard, and the failure is no redirect.
  cases acquired with
  | error error =>
    obtain ⟨rfl, rfl, rfl⟩ := amid_done_iff.1 trying
    rw [List.append_nil]
    refine ⟨first, ?_, uninformed.layouts translator⟩
    rw [uninformed.redirects]
    split <;> rfl
  | ok lease =>
    obtain ⟨conversing, rest, outcome, talked, rfl, conversation, giving⟩ := amid_bind_iff.1 trying
    obtain ⟨releasing, rest, _, left, rfl, release, finished⟩ := amid_bind_iff.1 giving
    obtain ⟨rfl, rfl, rfl⟩ := amid_done_iff.1 finished
    -- Giving the connection back is a step aside, as acquiring it was.
    obtain ⟨third, silent⟩ := aside_of_alone release (released lease)
    -- What is heard over the connection, with `ASKING` or without, decides the outcome.
    have told : Trace.redirects conversing = (Signal.redirect? outcome).toList ∧
        Trace.layouts translator conversing = [] := by
      cases asking with
      | false =>
        -- Without the prefix there is one exchange, and its answer is the outcome.
        obtain ⟨answer, _, rfl, rfl⟩ := exists_answer conversation
        refine ⟨?_, rfl⟩
        simp only [Trace.redirects, List.filterMap_cons, List.filterMap_nil, Exchange.redirect?]
        cases Signal.redirect? (Redirect.classify answer lease.endpoint) <;> rfl
      | true =>
        -- With it, either the first answer ended the attempt, or a plain one was passed over.
        cases asksFirst_of_converse conversation with
        | @refused answer refused =>
          refine ⟨?_, rfl⟩
          simp only [Trace.redirects, List.filterMap_cons, List.filterMap_nil, Exchange.redirect?]
          cases Signal.redirect? (Redirect.classify answer lease.endpoint) <;> rfl
        | @acknowledged reply normal answer =>
          refine ⟨?_, rfl⟩
          simp only [Trace.redirects, List.filterMap_cons, List.filterMap_nil, Exchange.redirect?,
            Redirect.classify_of_normal normal, Signal.redirect?]
          cases Signal.redirect? (Redirect.classify answer lease.endpoint) <;> rfl
    -- Conversing is requests only, and those leave the table as it is.
    have conversed : (converse lease frame asking).Within fun op => op.isSteady = true := by
      have requested : ∀ request, (Program.request lease request).Within fun op =>
          op.isSteady = true := fun request => request_within lease request rfl rfl
      cases asking with
      | false => exact (requested _).bind fun _ => trivial
      | true =>
        refine (requested _).bind fun acknowledged => ?_
        split
        · exact (requested _).bind fun _ => trivial
        · trivial
    have second := steady_of_alone conversation conversed
    -- The three pieces one after the other: only the middle one has told something.
    refine ⟨(first.trans second).trans third, ?_, ?_⟩
    · simp only [Trace.redirects_append, uninformed.redirects, silent.redirects, told.1,
        List.nil_append, List.append_nil]
    · simp only [Trace.layouts_append, uninformed.layouts, silent.layouts, told.2, List.append_nil]

variable {remaining : Nat} {progress : Progress} {legs : List Leg}
  {result : Except ClientError Frame}

/-- A command leaves its footprint in the table: what it was told on its way. -/
theorem ItineraryAmid.footprint
    (itinerary : dispatcher.Itinerary slot frame remaining progress state legs trace result last)
    (consistent : state.topology.Consistent) :
    Footprint dispatcher.translator progress.route.targets state trace last := by
  -- Each leg adds to the table as it was left by the legs before it.
  induction itinerary with
  -- Without attempts left nothing is done any more.
  | spent progress state => exact .of_steady consistent (.refl _) nofun rfl
  | lost aimed => exact aim_footprint consistent aimed
  | @decided remaining progress state leg result made ended =>
    -- The attempt that decides brought no redirect, or it would not have decided.
    obtain ⟨middle, aims, attempted⟩ := made
    have first := aim_footprint consistent aims
    obtain ⟨steady, referred, unmapped⟩ := attempt_told dispatcher.translator attempted
    have unreferred : leg.attempt.steps.redirects = [] := by
      rw [referred, Attempt.verdict?_eq_some_iff.1 ended]
      cases result <;> rfl
    exact first.trans
      (.of_steady first.consistent steady (Trace.unmoved_of_unreferred unreferred) unmapped)
  -- Nobody closes the table in between, so it cannot refuse what the attempt was told.
  | refused made redirected meanwhile refused =>
    exact (made.unrefused consistent meanwhile refused).elim
  | @on remaining progress next state after last leg legs between rest result made passes later ih =>
    -- Another leg follows: the way to this one, its attempt, what lies between, and the rest.
    obtain ⟨settled, accepting, inside⟩ := made.settled consistent
    have later := ih (passes.consistent settled)
    obtain ⟨middle, aims, attempted⟩ := made
    have first := aim_footprint consistent aims
    obtain ⟨steady, referred, unmapped⟩ := attempt_told dispatcher.translator attempted
    refine first.trans ?_
    cases passes with
    | @moved moved target owner _ _ redirected meanwhile assigned =>
      cases meanwhile
      rw [redirected] at referred
      -- The table takes in what the attempt was told, so the two are one piece.
      have taken : (leg.finish.perform (.assign [moved]
          (dispatcher.translator.apply target)) ()).2 = after := by rw [assigned]
      have second : Footprint dispatcher.translator
          (progress.route.targets ++ leg.aiming.named dispatcher.translator) middle
          (leg.attempt.steps ++
            [⟨.assign [moved] (dispatcher.translator.apply target), .ok owner⟩]) after := by
        have silent : Trace.layouts dispatcher.translator (leg.attempt.steps ++
            [⟨.assign [moved] (dispatcher.translator.apply target), .ok owner⟩]) = [] := by
          rw [Trace.layouts_append, unmapped]
          rfl
        have told : Trace.redirects (leg.attempt.steps ++
            [⟨.assign [moved] (dispatcher.translator.apply target), .ok owner⟩]) =
              [.moved moved target] := by
          rw [Trace.redirects_append, referred]
          rfl
        refine ⟨?_, .of_unmapped silent⟩
        rw [← taken]
        exact .of_assign first.consistent (steady.closed.symm.trans accepting) steady told silent
      rw [← List.append_assoc]
      exact second.trans (later.mono (List.nil_subset _))
    -- A temporary redirect is not written down, but it names whom the next leg may register.
    | @asked asked target redirected =>
      rw [redirected] at referred
      have second : Footprint dispatcher.translator
          (progress.route.targets ++ leg.aiming.named dispatcher.translator) middle
          leg.attempt.steps leg.finish :=
        .of_steady first.consistent steady (by simp [referred, Signal.redirect?]) unmapped
      refine second.trans (later.mono ?_)
      -- The attempt has named the node that the next one goes to.
      have named : leg.attempt.steps.named dispatcher.translator =
          [dispatcher.translator.apply target] := by
        rw [Trace.named_of_unmapped unmapped, referred]
        rfl
      rw [named]
      exact List.subset_append_right _ _
    -- After a failure the rediscovery between the two attempts records for itself.
    | failed lost rediscovered =>
      rw [lost] at referred
      have second : Footprint dispatcher.translator
          (progress.route.targets ++ leg.aiming.named dispatcher.translator) middle
          leg.attempt.steps leg.finish :=
        .of_steady first.consistent steady (Trace.unmoved_of_unreferred referred) unmapped
      obtain ⟨recorded, _⟩ := Discovery.rediscover_recorded
        (progress.route.targets ++ leg.aiming.named dispatcher.translator ++
          leg.attempt.steps.named dispatcher.translator) settled accepting rediscovered
      have third : Footprint dispatcher.translator _ leg.finish between after :=
        ⟨recorded, .of_rediscover settled accepting rediscovered⟩
      exact second.trans (third.trans (later.mono (List.nil_subset _)))

/-- Between two attempts no node is forgotten. -/
theorem PassesAmid.kept {attempt : Attempt} {between : Trace} {next : Progress} {after : ClientState}
    (passes : dispatcher.Passes progress attempt state between next after)
    (consistent : state.topology.Consistent) (accepting : state.topology.closed = false) :
    state.topology.nodes ⊆ after.topology.nodes := by
  -- Writing down an owner, going on to a target and rediscovering are the three ways between.
  cases passes with
  | @moved slot target owner _ _ redirected meanwhile assigned =>
    cases meanwhile
    have taken : (state.perform (.assign [slot] (dispatcher.translator.apply target)) ()).2 = after := by
      rw [assigned]
    rw [← taken]
    exact Topology.nodes_assign _ _ _
  | asked redirected => exact List.Subset.refl _
  | failed lost rediscovered =>
    exact (Discovery.rediscover_recorded [] consistent accepting rediscovered).1.kept

/-- Between two attempts no redirect comes in. -/
theorem PassesAmid.unreferred {attempt : Attempt} {between : Trace} {next : Progress}
    {after : ClientState} (passes : dispatcher.Passes progress attempt state between next after) :
    between.redirects = [] := by
  -- Only a rediscovery speaks to anybody there, and what it hears is no redirect.
  cases passes with
  | moved redirected meanwhile assigned => rfl
  | asked redirected => rfl
  | failed lost rediscovered =>
    exact Discovery.unreferred_of_business rediscovered (Discovery.rediscover_business _ _)

/-- The node of a temporary redirect is known in the end if another attempt was to be made. -/
theorem ItineraryAmid.knows {target : Endpoint}
    (itinerary : dispatcher.Itinerary slot frame (remaining + 1) progress state legs trace result last)
    (consistent : state.topology.Consistent) (accepting : state.topology.closed = false)
    (routed : progress.route = .asking target) : last.topology.Knows target := by
  -- The way to an attempt makes the target known, and the attempt itself forgets nobody.
  have aimed : ∀ {leg : Leg}, dispatcher.Makes slot frame progress.route state leg →
      leg.finish.topology.Knows target := by
    rintro leg ⟨middle, aims, attempted⟩
    rw [routed] at aims
    obtain ⟨steady, _⟩ := attempt_told dispatcher.translator attempted
    exact (knows_of_aim consistent accepting aims).mono (steady.nodes ▸ List.Subset.refl _)
  -- Whatever became of the command, it has taken that way at least once.
  cases itinerary with
  | lost aims =>
    rw [routed] at aims
    exact knows_of_aim consistent accepting aims
  | decided made ended => exact aimed made
  -- An open table takes in the redirect, so this end does not occur.
  | refused made redirected meanwhile refused =>
    exact (made.unrefused consistent meanwhile refused).elim
  | on made passes later =>
    -- Nothing that comes later makes the node forgotten.
    obtain ⟨settled, still, _⟩ := made.settled consistent
    have kept := (later.footprint (passes.consistent settled)).kept
    exact (aimed made).mono (List.Subset.trans (passes.kept settled still) kept)

/-- The target of every temporary redirect is known in the end, but for one that came in with the last
attempt that there was, and that the error names. -/
theorem ItineraryAmid.asked {asked : Nat} {target : Endpoint}
    (itinerary : dispatcher.Itinerary slot frame remaining progress state legs trace result last)
    (consistent : state.topology.Consistent) (referred : .ask asked target ∈ trace.redirects) :
    last.topology.Knows (dispatcher.translator.apply target) ∨
      result = .error (.tooManyRedirections dispatcher.maxRedirects
        (.ask asked (dispatcher.translator.apply target).socketAddress)) := by
  -- On the way to an attempt nobody redirects.
  have straight : ∀ {route : Route} {state last : ClientState} {steps : Trace}
      {aimed : Except ClientError (PoolRef × Bool)},
      Alone (dispatcher.aim slot route) state steps aimed last → steps.redirects = [] :=
    fun aims => Discovery.unreferred_of_business aims (aim_business _ _ _)
  -- The redirect came in with one of the attempts; those before it are passed over.
  induction itinerary with
  | spent progress state => simp [Trace.redirects] at referred
  | lost aimed => simp [straight aimed] at referred
  | @decided remaining progress state leg result made ended =>
    -- An attempt that decided the command was not redirected, so it cannot be this one.
    obtain ⟨middle, aims, attempted⟩ := made
    obtain ⟨_, told, _⟩ := attempt_told dispatcher.translator attempted
    rw [Trace.redirects_append, straight aims, told, List.nil_append,
      Attempt.verdict?_eq_some_iff.1 ended] at referred
    cases result <;> cases referred
  | refused made redirected meanwhile refused =>
    exact (made.unrefused consistent meanwhile refused).elim
  -- It came in with this attempt or with a later one.
  | @on remaining progress next state after last leg legs between rest result made passes later ih =>
    obtain ⟨settled, accepting, _⟩ := made.settled consistent
    obtain ⟨middle, aims, attempted⟩ := made
    obtain ⟨_, told, _⟩ := attempt_told dispatcher.translator attempted
    simp only [Trace.redirects_append, straight aims, told, passes.unreferred, List.nil_append,
      List.mem_append] at referred
    rcases referred with here | later
    · -- The attempt ended in this redirect, so the next one, if there is any, goes to its target.
      cases passes with
      | moved redirected meanwhile assigned => simp [redirected, Signal.redirect?] at here
      | failed lost rediscovered => simp [lost, Signal.redirect?] at here
      | asked redirected =>
        simp only [redirected, Signal.redirect?, Option.toList_some, List.mem_singleton,
          Signal.ask.injEq] at here
        obtain ⟨rfl, rfl⟩ := here
        -- If this was the last one, the error names the redirect; otherwise the next leg registers
        -- it.
        cases remaining with
        | zero =>
          cases later
          exact .inr rfl
        | succ remaining => exact .inl (later.knows settled accepting rfl)
    · exact ih (passes.consistent settled) later

/-- What a command leaves behind in the routing table, if no other task works on it. The owner of every
slot is the one that was told last, by a permanent redirect that named the slot or by a layout, and the
one before if none was told; a layout is told by a rediscovery that has refreshed the table. No node is
forgotten, and none is known that was not known before or named by a redirect or a layout. The target of
a temporary redirect becomes known, if there was another attempt to be made, but owns no slot for it.
And where neither a permanent redirect came in nor a rediscovery refreshed the table, every slot is as it
was, whatever the result of the command. -/
theorem execute_footprint {command : Command} (consistent : state.topology.Consistent)
    (run : Alone (dispatcher.execute command) state trace result last) :
    (∀ slot, slot < slotCount →
      match trace.word? dispatcher.translator slot with
      | none => last.topology.owner slot = state.topology.owner slot
      | some none => last.topology.owner slot = none
      | some (some node) => last.topology.OwnedBy slot node) ∧
    trace.Refreshes dispatcher.translator ∧
    state.topology.nodes ⊆ last.topology.nodes ∧
    (∀ entry ∈ last.topology.nodes, entry ∈ state.topology.nodes ∨
      ∃ node ∈ trace.named dispatcher.translator, entry.1 = node.nodeKey) ∧
    (∀ asked target, .ask asked target ∈ trace.redirects →
      last.topology.Knows (dispatcher.translator.apply target) ∨
        result = .error (.tooManyRedirections dispatcher.maxRedirects
          (.ask asked (dispatcher.translator.apply target).socketAddress))) ∧
    ((∀ moved target, .moved moved target ∉ trace.redirects) →
      (∀ front part back preferred node start finish, trace = front ++ (part ++ back) →
        ¬Alone (Discovery.rediscover dispatcher.translator preferred) start part (.refreshed node)
          finish) →
      last.topology.slots = state.topology.slots) := by
  have walked : Footprint dispatcher.translator [] state trace last ∧
      ∀ asked target, .ask asked target ∈ trace.redirects →
        last.topology.Knows (dispatcher.translator.apply target) ∨
          result = .error (.tooManyRedirections dispatcher.maxRedirects
            (.ask asked (dispatcher.translator.apply target).socketAddress)) := by
    unfold execute at run
    split at run
    · -- A command that cannot be routed is over before it takes a step.
      obtain ⟨rfl, _, rfl⟩ := amid_done_iff.1 run
      exact ⟨.of_steady consistent (.refl _) nofun rfl, nofun⟩
    · obtain ⟨legs, itinerary⟩ := run_amid_iff.1 run
      exact ⟨itinerary.footprint consistent, fun _ _ => itinerary.asked consistent⟩
  obtain ⟨footprint, asked⟩ := walked
  refine ⟨footprint.owners, footprint.sourced, footprint.kept, ?_, asked, ?_⟩
  -- The command itself was told of nobody, so each node known is an old one or named on the way.
  · simpa only [List.nil_append] using footprint.known
  -- Where no word was said about any slot, the owners tell that the slots are as they were.
  · intro unmoved unrefreshed
    -- A layout would come from a rediscovery that refreshed the table, and there was none.
    have unmapped : trace.layouts dispatcher.translator = [] := by
      refine List.eq_nil_iff_forall_not_mem.2 fun ranges member => ?_
      obtain ⟨front, part, back, preferred, node, start, finish, whole, _, refreshed⟩ :=
        footprint.sourced ranges member
      exact unrefreshed front part back preferred node start finish whole refreshed
    refine Topology.slots_of_owner fun slot inside => ?_
    have same := footprint.owners slot inside
    rw [Trace.word?_eq_none unmoved unmapped] at same
    exact same

/-- Of a permanent and a temporary redirect in a row, the first has given its slot away, the second has
made its target known, and no other slot has changed hands. -/
theorem resharding_footprint :
    resharding.2.1.topology.OwnedBy 3 ⟨"127.0.0.1", 7001⟩ ∧
      resharding.2.1.topology.Knows ⟨"127.0.0.1", 7002⟩ ∧
      resharding.2.1.topology.owner 4 = outdated.topology.owner 4 := by
  -- The table it begins with was made by one assignment, so it is consistent.
  have consistent : outdated.topology.Consistent :=
    (Topology.consistent_new {}).assign [3] ⟨"127.0.0.1", 7000⟩
  have run : Alone ((Dispatcher.new .identity 5).execute (.get (Utf8.encode "raw"))) outdated
      resharding.2.2 resharding.1 resharding.2.1 := by
    unfold resharding
    exact alone_play _ _ _
  -- What the session has told is read off its trace.
  have told : resharding.2.2.word? .identity 3 = some (some ⟨"127.0.0.1", 7001⟩) ∧
      resharding.2.2.word? .identity 4 = none ∧
      .ask 3 ⟨"127.0.0.1", 7002⟩ ∈ resharding.2.2.redirects ∧ resharding.1 = .ok .ok := by
    decide +kernel
  -- Nothing else about the session matters.
  generalize resharding = session at run told ⊢
  obtain ⟨moved, silent, asked, replied⟩ := told
  obtain ⟨owners, -, -, -, targets, -⟩ := execute_footprint consistent run
  have third := owners 3 (by decide)
  have fourth := owners 4 (by decide)
  have moved : session.2.2.word? (Dispatcher.new .identity 5).translator 3 =
    some (some ⟨"127.0.0.1", 7001⟩) := moved
  have silent : session.2.2.word? (Dispatcher.new .identity 5).translator 4 = none := silent
  rw [moved] at third
  rw [silent] at fourth
  -- The command got its reply, so the target cannot be the one that an error names.
  refine ⟨third, (targets 3 _ asked).resolve_right ?_, fourth⟩
  simp [replied]

end Dispatcher

end RedisCluster
