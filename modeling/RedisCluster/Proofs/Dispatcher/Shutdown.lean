import RedisCluster.Proofs.Dispatcher.Budget
import RedisCluster.Proofs.Dispatcher.RedirectChain
import RedisCluster.Proofs.Program.Midway
import RedisCluster.Proofs.Topology.Shut

/-! What becomes of a command when the client is closed while it runs. -/

namespace RedisCluster.Dispatcher

open Program
open ClientState (Later Shut)

variable {dispatcher : Dispatcher} {slot : Option Nat} {frame : Frame} {remaining : Nat}
  {progress : Progress} {start state now last : ClientState} {front back : Trace}

/-- A program that runs on a closed client. -/
abbrev YieldsShut {α : Type} (required : α → Prop) (program : Program α) : Prop :=
  program.YieldsWhile Shut required

/-- No step opens a closed client again. -/
theorem shut_kept (state : ClientState) (op : Op) (choice : op.Choice) (shut : state.Shut) :
    (state.perform op choice).2.Shut :=
  shut.perform op choice

/-- What a program yields on a closed client, it ends with if it begins there. -/
theorem required_of_shut {α : Type} {required : α → Prop} {program : Program α} {value : α}
    (run : Amid Later program now back value last) (shut : now.Shut)
    (yields : YieldsShut required program) : required value :=
  run.yieldsWhile shut_kept shut yields

/-- A client that is closed when a program goes on is closed when it ends. -/
theorem shut_of_amid {α : Type} {program : Program α} {value : α}
    (run : Amid Later program now back value last) (shut : now.Shut) : last.Shut :=
  run.keeps shut_kept shut

/-- On a closed client no node is looked for. -/
theorem fallback_shut : YieldsShut (· = .error .clientClosed) fallback := by
  -- The sweep looks at the closed flag first.
  intro state choice shut
  rw [shut.isClosed]
  rfl

/-- On a closed client no slot has an owner. -/
theorem ownerPool_shut (dispatcher : Dispatcher) (slot : Option Nat) :
    YieldsShut (· = .error .clientClosed) (dispatcher.ownerPool slot) := by
  cases slot with
  | none => exact fallback_shut
  | some slot =>
    intro state choice shut
    rw [shut.owner]
    -- No nodes are known either, so no rediscovery is tried before the sweep.
    intro state choice shut
    rw [shut.nodeCount]
    exact fallback_shut

/-- On a closed client no attempt is aimed. -/
theorem aim_shut (dispatcher : Dispatcher) (slot : Option Nat) (route : Route) :
    YieldsShut (· = .error .clientClosed) (dispatcher.aim slot route) := by
  -- The first step of every aim is the look at the closed flag.
  intro state choice shut
  rw [shut.isClosed]
  rfl

/-- On a closed client a command that has attempts left makes none of them. -/
theorem run_shut (dispatcher : Dispatcher) (slot : Option Nat) (frame : Frame) (remaining : Nat)
    (progress : Progress) :
    YieldsShut (· = .error .clientClosed) (dispatcher.run slot frame (remaining + 1) progress) := by
  rw [run_succ]
  refine (aim_shut dispatcher slot progress.route).bind ?_
  -- The next attempt is aimed first, and that fails.
  rintro _ rfl
  rfl

/-- On a closed client an attempt fails like one at a node that is gone. -/
theorem attempt_shut (pool : PoolRef) (frame : Frame) (asking : Bool) :
    YieldsShut (∃ error, · = .ok (.connectionFailure error)) (attempt pool frame asking) := by
  -- An attempt begins at the door of its pool, and there the caller is turned away.
  intro state choice shut
  obtain ⟨error, refused, connectivity⟩ := shut.enter pool choice
  rw [refused]
  -- The pool is closed, which counts as a failure to reach its node.
  simp [Program.YieldsWhile, connectivity]

/-- How a command ends that was started in the state `start` and whose client was closed when it had
taken the steps of `front`, so that those of `back` were still to come. The travels are the legs that
it had made before. -/
inductive Shutdown (dispatcher : Dispatcher) (slot : Option Nat) (frame : Frame) (start : ClientState)
    (front back : Trace) : Except ClientError Frame → Prop where
  | refused : Shutdown dispatcher slot frame start front back (.error .clientClosed)
  /-- The next attempt had begun, and decides the result. -/
  | answered {legs : List Leg} {before begun : Trace} {reached : Progress} {middle : ClientState}
      {leg : Leg} {result : Except ClientError Frame}
      (travels : dispatcher.Travels Later slot frame {} start legs before reached middle)
      (made : dispatcher.MakesAmid Later slot frame reached.route middle leg)
      (cut : front = before ++ (leg.aiming ++ begun)) (underway : begun ≠ [])
      (whole : leg.attempt.steps = begun ++ back) (ended : leg.attempt.verdict? = some result) :
      Shutdown dispatcher slot frame start front back result
  /-- The next leg had begun, was the last one that the command had, and calls for another attempt. -/
  | exhausted {legs : List Leg} {before begun between : Trace} {reached next : Progress}
      {middle after : ClientState} {leg : Leg} {cause : ClientError}
      (travels : dispatcher.Travels Later slot frame {} start legs before reached middle)
      (made : dispatcher.MakesAmid Later slot frame reached.route middle leg)
      (passes : dispatcher.PassesAmid Later reached leg.attempt leg.finish between next after)
      (lastLeg : legs.length + 1 = dispatcher.maxRedirects)
      (cut : front = before ++ begun) (underway : begun ≠ [])
      (whole : leg.aiming ++ (leg.attempt.steps ++ between) = begun ++ back)
      (named : leg.attempt.cause? dispatcher.translator = some cause) :
      Shutdown dispatcher slot frame start front back
        (.error (if (legs ++ [leg]).any (·.attempt.isRedirected)
          then .tooManyRedirections dispatcher.maxRedirects cause
          else .clusterUnavailable dispatcher.maxRedirects cause))
  /-- The next attempt was being aimed, and the sweep had begun that no node was found in. -/
  | unreachable {legs : List Leg} {before looking begun : Trace} {reached : Progress}
      {middle ready last : ClientState} {cause : Option ClientError}
      (travels : dispatcher.Travels Later slot frame {} start legs before reached middle)
      (spare : legs.length < dispatcher.maxRedirects)
      (aims : Amid Later (dispatcher.aim slot reached.route) middle
        (⟨.isClosed, false⟩ :: (looking ++ (begun ++ back))) (.error (.noReachableNode cause)) last)
      (sweeps : Amid Later fallback ready (begun ++ back) (.error (.noReachableNode cause)) last)
      (cut : front = before ++ (⟨.isClosed, false⟩ :: (looking ++ begun))) (underway : begun ≠ []) :
      Shutdown dispatcher slot frame start front back (.error (.noReachableNode cause))

/-- A program that is over at once on a closed client wherever it has got to, except in a sweep over
all nodes. -/
inductive Concedes {α : Type} : Program (Except ClientError α) → Prop where
  -- A program that is over has nothing left to be cut.
  | settled (result : Except ClientError α) : Concedes (.done result)
  | sweep (follow : PoolRef → α) :
      Concedes (.bind fallback fun found => .done (found.map follow))
  -- Anything else ends with the error of a closed client, from its first step and from all later
  -- ones.
  | ask {op : Op} {next : op.Answer → Program (Except ClientError α)}
      (closed : YieldsShut (· = .error .clientClosed) (.ask op next))
      (rest : ∀ answer, Concedes (next answer)) : Concedes (.ask op next)

namespace Concedes

variable {α β : Type}

/-- A sweep whose result is used as it is. -/
theorem fallback : Concedes fallback := by
  -- Using a result as it is changes nothing about the program.
  have same : (fun found : Except ClientError PoolRef => Program.done (found.map id)) = .done := by
    funext found
    cases found <;> rfl
  have swept := sweep id
  rwa [same, bind_done_right] at swept

/-- What comes before does not matter if what follows ends at once. -/
theorem bind {follow : β → Program (Except ClientError α)} (program : Program β)
    (closed : ∀ value, YieldsShut (· = .error .clientClosed) (follow value))
    (rest : ∀ value, Concedes (follow value)) : Concedes (.bind program follow) := by
  -- The first program is taken step by step, down to what follows it.
  induction program with
  | done value => exact rest value
  | ask op next ih =>
    -- Whatever the first program brings, what follows finds the client closed.
    have ends := (yields_trivial (.ask op next)).yieldsWhile Shut
    exact .ask (ends.bind fun value _ => closed value) ih

/-- What is done with a pool that was found does not matter. -/
theorem map {program : Program (Except ClientError α)} (concedes : Concedes program)
    (change : α → β) : Concedes (.bind program fun found => .done (found.map change)) := by
  induction concedes with
  | settled result => exact .settled _
  | sweep follow =>
    -- Two changes one after the other are one change of what the sweep has found.
    have same : (fun found : Except ClientError PoolRef =>
        Program.bind (.done (found.map follow)) fun found => .done (found.map change)) =
          fun found => .done (found.map fun pool => change (follow pool)) := by
      funext found
      cases found <;> rfl
    rw [bind_assoc, same]
    exact .sweep _
  | ask closed rest ih =>
    refine .ask (closed.bind ?_) ih
    -- An error has no pool for `change` to act on.
    rintro _ rfl
    rfl

/-- An owner is looked for so. -/
theorem ownerPool (dispatcher : Dispatcher) (slot : Option Nat) :
    Concedes (dispatcher.ownerPool slot) := by
  -- Without a slot the sweep is all there is; with one, each later look comes to nothing first.
  cases slot with
  | none => exact .fallback
  | some slot =>
    refine .ask (ownerPool_shut dispatcher (some slot)) fun owner => ?_
    cases owner with
    | some pool => exact .settled _
    | none =>
      -- The number of nodes decides how to go on, and a closed client has none.
      have uncounted : ∀ follow : Nat → Program (Except ClientError PoolRef),
          YieldsShut (· = .error .clientClosed) (follow 0) →
            YieldsShut (· = .error .clientClosed) (.ask .nodeCount follow) := by
        intro follow ends state choice shut
        rw [shut.nodeCount]
        exact ends
      refine .ask (uncounted _ fallback_shut) fun count => ?_
      simp only [Program.bind_done]
      split
      · exact .fallback
      · -- After the rediscovery the slot is looked up again, and a closed client has no owner for it.
        have unowned : ∀ follow : Option PoolRef → Program (Except ClientError PoolRef),
            YieldsShut (· = .error .clientClosed) (follow none) →
              YieldsShut (· = .error .clientClosed) (.ask (.owner slot) follow) := by
          intro follow ends state choice shut
          rw [shut.owner]
          exact ends
        refine .bind _ (fun _ => unowned _ fallback_shut) fun _ =>
          .ask (unowned _ fallback_shut) fun owner => ?_
        cases owner with
        | some pool => exact .settled _
        | none => exact .fallback

/-- A pool is chosen so. -/
theorem choose (dispatcher : Dispatcher) (slot : Option Nat) (route : Route) :
    Concedes (dispatcher.choose slot route) := by
  cases route with
  -- Adding that no `ASKING` is called for changes the result of the search and no step of it.
  | owner => exact (ownerPool dispatcher slot).map _
  -- The target of a redirect is looked up, and registered if it is not known.
  | asking target =>
    have unregistered : Concedes (Program.ask (.register target) .done) := by
      refine .ask (fun state choice shut => ?_) fun answer => .settled answer
      rw [shut.register]
      rfl
    have unknown : Concedes (Program.getOrCreate target) := by
      refine .ask (fun state choice shut => ?_) fun known => ?_
      · rw [shut.lookup]
        intro state choice shut
        rw [shut.register]
        rfl
      · cases known with
        | some pool => exact .settled _
        | none => exact unregistered
    exact unknown.map _

/-- Where no node was found to be alive, a sweep had begun when the client was closed, and ends the
program. -/
theorem exists_sweep {program : Program (Except ClientError α)} (concedes : Concedes program)
    {op : Op} {next : op.Answer → Program (Except ClientError α)} {cause : Option ClientError}
    (midway : Midway program state front (.ask op next) now) (shut : now.Shut)
    (run : Amid Later (.ask op next) now back (.error (.noReachableNode cause)) last) :
    ∃ looking begun ready, front = looking ++ begun ∧ begun ≠ [] ∧
      Amid Later Dispatcher.fallback ready (begun ++ back) (.error (.noReachableNode cause)) last := by
  -- Nothing that begins on a closed client ends for want of a node.
  have fresh : ∀ {program : Program (Except ClientError α)},
      YieldsShut (· = .error .clientClosed) program → program ≠ .ask op next := by
    rintro _ yields rfl
    have closed := required_of_shut run shut yields
    cases closed
  induction concedes generalizing state front with
  -- A program that is over cannot be cut in the middle.
  | settled result => cases midway
  | sweep follow =>
    -- A sweep that has taken no step yet would begin on the closed client.
    have begun : front ≠ [] := by
      rintro rfl
      cases midway
      refine fresh (fallback_shut.bind ?_) rfl
      rintro _ rfl
      rfl
    -- What is done with a pool that was found takes no steps, so the trace is that of the sweep.
    have whole := midway.amid run run.unfinished
    obtain ⟨swept, nothing, found, finish, same, sweeps, judged⟩ := amid_bind_iff.1 whole
    obtain ⟨rfl, unfound, rfl⟩ := amid_done_iff.1 judged
    rw [List.append_nil] at same
    cases found with
    -- The sweep has found nobody, and its error is that of the program.
    | error error =>
      obtain rfl := Except.error.inj unfound
      exact ⟨[], front, state, rfl, begun, same ▸ sweeps⟩
    | ok pool => cases unfound
  | ask closed rest ih =>
    cases midway with
    -- Cut before its first step, the program begins on the closed client as a whole.
    | here _ others => exact absurd rfl (fresh closed)
    -- Behind its first step, what is left of the program concedes as well.
    | ask others choice midway =>
      obtain ⟨looking, begun, ready, rfl, underway, sweeps⟩ := ih _ midway
      exact ⟨_ :: looking, begun, ready, rfl, underway, sweeps⟩

end Concedes

variable {result : Except ClientError Frame} {op : Op} {legs : List Leg} {before begun between : Trace}
  {reached next : Progress} {middle after : ClientState} {leg : Leg}

/-- A leg during which the client was closed is the last one, and its cause is the one that the command
reports, or the command is refused. -/
theorem Shutdown.of_run
    (travels : dispatcher.Travels Later slot frame {} start legs before reached middle)
    (budget : legs.length + (remaining + 1) = dispatcher.maxRedirects)
    (made : dispatcher.MakesAmid Later slot frame reached.route middle leg)
    (passes : dispatcher.PassesAmid Later reached leg.attempt leg.finish between next after)
    (shut : after.Shut) {rest : Trace}
    (run : Amid Later (dispatcher.run slot frame remaining next) after rest result last)
    (whole : leg.aiming ++ (leg.attempt.steps ++ (between ++ rest)) = begun ++ back)
    (underway : begun ≠ []) :
    Shutdown dispatcher slot frame start (before ++ begun) back result := by
  cases remaining with
  | zero =>
    -- The budget says that this leg was the last one.
    -- Without attempts left the command says so, closed or not.
    obtain ⟨rfl, rfl, _⟩ := amid_done_iff.1 run
    obtain ⟨cause, named⟩ := (passes.deflected made.ran).exists_cause dispatcher.translator
    rw [(travels.concat made passes).noted.outOfAttempts named]
    rw [List.append_nil] at whole
    exact .exhausted travels made passes budget rfl underway whole named
  | succ remaining =>
    -- With attempts left the next one would be aimed, and a closed client refuses that.
    obtain rfl := required_of_shut run shut (run_shut dispatcher slot frame remaining next)
    exact .refused

/-- So it is as well if the client was closed before the outcome of the leg was dealt with. -/
theorem Shutdown.of_follow
    (travels : dispatcher.Travels Later slot frame {} start legs before reached middle)
    (budget : legs.length + (remaining + 1) = dispatcher.maxRedirects)
    (made : dispatcher.MakesAmid Later slot frame reached.route middle leg)
    (undecided : leg.attempt.verdict? = none) (shut : leg.finish.Shut) {rest : Trace}
    (follows : Amid Later (dispatcher.follow slot frame remaining reached leg.attempt.pool
      leg.attempt.outcome) leg.finish rest result last)
    (whole : leg.aiming ++ (leg.attempt.steps ++ rest) = begun ++ back) (underway : begun ≠ []) :
    Shutdown dispatcher slot frame start (before ++ begun) back result := by
  -- The outcome of the leg calls for another attempt, or the table refuses what it was told.
  rcases follow_amid_iff.1 follows with ⟨ended, _⟩ |
    ⟨moved, target, noting, error, _, _, refused, _, rfl⟩ | ⟨between, next, after, rest, rfl, passes, run⟩
  · cases undecided.symm.trans ended
  · -- A permanent redirect would be written to the table, which is closed.
    obtain rfl := assign_error (congrArg Prod.fst refused)
    exact .refused
  · -- Whatever is done before the next attempt, the client is closed by then.
    exact .of_run travels budget made passes (passes.keeps shut_kept shut) run whole underway

/-- What is under way when the client is closed while an attempt is aimed: nothing comes of it, unless
a node was just found to be alive, whose pool is closed by now, or none was found. -/
theorem aiming_shutdown {next : op.Answer → Program (Except ClientError (PoolRef × Bool))}
    (travels : dispatcher.Travels Later slot frame {} start legs before reached middle)
    (budget : legs.length + (remaining + 1) = dispatcher.maxRedirects)
    (inside : Midway (dispatcher.aim slot reached.route) middle front (.ask op next) now)
    (shut : now.Shut)
    (run : Amid Later (.bind (.ask op next) fun
      | .error error => .done (.error error)
      | .ok (pool, asking) => .bind (attempt pool frame asking)
          (dispatcher.follow slot frame remaining reached pool)) now back result last) :
    Shutdown dispatcher slot frame start (before ++ front) back result := by
  obtain ⟨aiming, back, aimed, ready, rfl, aim, parts⟩ := amid_bind_iff.1 run
  have whole := inside.amid aim aim.unfinished
  -- An aim that begins on a closed client finds no pool, and says so.
  have begun : front ≠ [] ∨ aimed = .error .clientClosed := by
    -- Either some step was taken before the cut, or the whole aim is still to come.
    cases front with
    | cons step rest => exact .inl (List.cons_ne_nil _ _)
    | nil =>
      rw [inside.eq_of_nil] at aim
      have refused := required_of_shut aim shut (aim_shut dispatcher slot reached.route)
      exact .inr refused
  cases aimed with
  | error error =>
    -- The aim failed, and its error is the result.
    obtain ⟨rfl, rfl, _⟩ := amid_done_iff.1 parts
    rw [List.append_nil]
    rcases whole.yields (aim_yields dispatcher slot reached.route) error rfl with rfl | ⟨cause, rfl⟩
    · exact .refused
    · -- The look at the closed flag was over by then, or it would have ended the command.
      have begun := begun.resolve_right (by simp)
      cases inside with
      -- A cut in front of the look at the flag was ruled out, for that look finds the client
      -- closed.
      | here _ others => exact absurd rfl begun
      | @ask _ _ _ looked _ front _ others choice inside =>
        -- The look has found the client open, since there are steps behind it.
        cases open_ : (looked.perform .isClosed choice).1 with
        | true =>
          rw [open_] at inside
          cases inside
        | false =>
          rw [open_] at inside whole
          obtain ⟨looking, begun, ready, rfl, underway, sweeps⟩ :=
            (Concedes.choose dispatcher slot reached.route).exists_sweep inside shut aim
          rw [List.cons_append, List.append_assoc] at whole
          exact .unreachable travels (by omega) whole sweeps rfl underway
  | ok chosen =>
    obtain ⟨pool, asking⟩ := chosen
    have begun := begun.resolve_right (by simp)
    -- Once closed the client stays so, up to the pool that the aim has found.
    have ready_shut := shut_of_amid aim shut
    obtain ⟨trying, ending, outcome, tried, rfl, attempted, follows⟩ := amid_bind_iff.1 parts
    -- The pool that was found is closed, like all others.
    obtain ⟨failure, rfl⟩ := required_of_shut attempted ready_shut (attempt_shut pool frame asking)
    have made : dispatcher.MakesAmid Later slot frame reached.route middle
        ⟨front ++ aiming, ⟨pool, asking, trying, .ok (.connectionFailure failure)⟩, tried⟩ :=
      ⟨ready, whole, attempted⟩
    exact .of_follow travels budget made rfl (shut_of_amid attempted ready_shut) follows
      (List.append_assoc ..) begun

/-- An attempt that is under way when the client is closed gives the result, or no other one does. -/
theorem trying_shutdown {pool : PoolRef} {asking : Bool} {aiming : Trace} {ready : ClientState}
    {next : op.Answer → Program (Except ClientError Signal)}
    (travels : dispatcher.Travels Later slot frame {} start legs before reached middle)
    (budget : legs.length + (remaining + 1) = dispatcher.maxRedirects)
    (aims : Amid Later (dispatcher.aim slot reached.route) middle aiming (.ok (pool, asking)) ready)
    (inside : Midway (attempt pool frame asking) ready front (.ask op next) now) (shut : now.Shut)
    (run : Amid Later (.bind (.ask op next) (dispatcher.follow slot frame remaining reached pool))
      now back result last) :
    Shutdown dispatcher slot frame start (before ++ (aiming ++ front)) back result := by
  obtain ⟨trying, ending, outcome, tried, rfl, attempted, follows⟩ := amid_bind_iff.1 run
  -- Taken together, the steps before and after the cut are one attempt.
  have made : dispatcher.MakesAmid Later slot frame reached.route middle
      ⟨aiming, ⟨pool, asking, front ++ trying, outcome⟩, tried⟩ :=
    ⟨ready, aims, inside.amid attempted attempted.unfinished⟩
  cases ended : Attempt.verdict? ⟨pool, asking, front ++ trying, outcome⟩ with
  | some decided =>
    -- Whoever comes to the pool only now is not let in, so the attempt has begun.
    have begun : front ≠ [] := by
      rintro rfl
      rw [inside.eq_of_nil] at attempted
      obtain ⟨failure, rfl⟩ := required_of_shut attempted shut (attempt_shut pool frame asking)
      cases ended
    obtain ⟨rfl, same⟩ : ending = [] ∧ decided = result := by
      -- A decided attempt ends the command on the spot, so nothing is left behind it.
      rcases outcome with error | (reply | ⟨moved, target⟩ | ⟨asked, target⟩ | error)
      · obtain ⟨rfl, rfl, _⟩ := amid_done_iff.1 follows
        exact ⟨rfl, (Option.some.inj ended).symm⟩
      · obtain ⟨rfl, rfl, _⟩ := amid_done_iff.1 follows
        exact ⟨rfl, (Option.some.inj ended).symm⟩
      · cases ended
      · cases ended
      · cases ended
    rw [List.append_nil]
    exact .answered travels made rfl begun rfl (same ▸ ended)
  | none =>
    -- Redirects and failures call for another attempt, which is not made any more.
    refine .of_follow travels budget made ended (shut_of_amid attempted shut) follows ?_ fun none =>
      aims.unfinished (List.append_eq_nil_iff.1 none).1
    simp only [List.append_assoc]

/-- Between two attempts the command is over on a closed client, or the next attempt is under way. -/
theorem following_shutdown {onward : op.Answer → Program (Except ClientError Frame)}
    (travels : dispatcher.Travels Later slot frame {} start legs before reached middle)
    (budget : legs.length + (remaining + 1) = dispatcher.maxRedirects)
    (made : dispatcher.MakesAmid Later slot frame reached.route middle leg)
    (parts : Midway (dispatcher.follow slot frame remaining reached leg.attempt.pool
      leg.attempt.outcome) leg.finish front (.ask op onward) now) (shut : now.Shut)
    (run : Amid Later (.ask op onward) now back result last) :
    Shutdown dispatcher slot frame start (before ++ (leg.aiming ++ (leg.attempt.steps ++ front))) back
        result ∨
      ∃ between later next after, front = between ++ later ∧
        dispatcher.PassesAmid Later reached leg.attempt leg.finish between next after ∧
        Midway (dispatcher.run slot frame remaining next) after later (.ask op onward) now := by
  -- The outcome of the attempt says what was to be done when the client was closed.
  rcases leg with ⟨aiming, ⟨pool, asking, steps, outcome⟩, finish⟩
  rcases outcome with error | (reply | ⟨moved, target⟩ | ⟨asked, target⟩ | error)
  -- Errors and replies leave nothing to be cut.
  · cases parts
  · cases parts
  · -- A permanent redirect is written to the table before the next attempt.
    cases parts with
    | here _ others =>
      -- It was still to be written, and a closed table does not take it in.
      obtain ⟨noting, _, rest, meanwhile, rfl, assigning⟩ := amid_ask_iff.1 run
      have refused := (meanwhile.keeps shut_kept shut).assign [moved]
        (dispatcher.translator.apply target)
      rw [refused] at assigning
      obtain ⟨_, rfl, _⟩ := amid_done_iff.1 assigning
      exact .inl .refused
    -- The new owner was being noted, and the cut lies behind that.
    | @ask _ _ _ noting _ later _ meanwhile choice parts =>
      cases assigned : noting.perform (.assign [moved] (dispatcher.translator.apply target)) () with
      | mk answer after =>
        rw [assigned] at parts
        cases answer with
        -- A table that refused it would have ended the command.
        | error error => cases parts
        -- It was written while the client was still open.
        | ok owner => exact .inr ⟨[_], later, _, after, rfl, .moved rfl meanwhile assigned, parts⟩
  · -- A redirect for once leads to the next attempt directly.
    exact .inr ⟨[], front, _, finish, rfl, .asked rfl, parts⟩
  · rcases midway_bind parts with ⟨later, follow, same, inside⟩ |
      ⟨between, later, found, after, rfl, rediscovered, parts⟩
    · -- The rediscovery was under way; whatever it brings, the client is closed when it ends.
      rw [same] at run
      obtain ⟨ending, rest, found, after, rfl, rediscovered, runs⟩ := amid_bind_iff.1 run
      have whole := inside.amid rediscovered rediscovered.unfinished
      refine .inl (.of_run travels budget made (.failed rfl whole) (shut_of_amid rediscovered shut) runs
        (by simp only [List.append_assoc]) fun none => ?_)
      obtain ⟨_, aims, _⟩ := made
      exact aims.unfinished (List.append_eq_nil_iff.1 none).1
    -- The rediscovery was over, so the next attempt had begun.
    · exact .inr ⟨between, later, _, after, rfl, .failed rfl rediscovered, parts⟩

/-- However far a command has got, once its client is closed it is refused, ends with the attempt that
was under way, runs out in its last attempt or gives up the sweep that was under way. -/
theorem run_shutdown {next : op.Answer → Program (Except ClientError Frame)}
    (travels : dispatcher.Travels Later slot frame {} start legs before reached middle)
    (budget : legs.length + remaining = dispatcher.maxRedirects)
    (midway : Midway (dispatcher.run slot frame remaining reached) middle front (.ask op next) now)
    (shut : now.Shut) (run : Amid Later (.ask op next) now back result last) :
    Shutdown dispatcher slot frame start (before ++ front) back result := by
  -- One attempt after the other: the cut lies in the aim, in the attempt, in what follows it, or in
  -- the attempts that are left. The legs before the cut are collected on the way.
  induction remaining generalizing legs before reached middle front with
  -- Without attempts there is no step to be cut at.
  | zero => cases midway
  | succ remaining ih =>
    rw [run_succ] at midway
    -- The cut lies in the aim, or behind it.
    rcases midway_bind midway with ⟨later, follow, same, inside⟩ |
      ⟨aiming, front, aimed, ready, rfl, aims, parts⟩
    · rw [same] at run
      exact aiming_shutdown travels budget inside shut run
    · cases aimed with
      -- Without a pool the command was over with its aim.
      | error error => cases parts
      | ok chosen =>
        obtain ⟨pool, asking⟩ := chosen
        -- The cut lies in the attempt, or behind it.
        rcases midway_bind parts with ⟨later, follow, same, inside⟩ |
          ⟨trying, front, outcome, tried, rfl, attempted, parts⟩
        · rw [same] at run
          exact trying_shutdown travels budget aims inside shut run
        · have made : dispatcher.MakesAmid Later slot frame reached.route middle
              ⟨aiming, ⟨pool, asking, trying, outcome⟩, tried⟩ := ⟨ready, aims, attempted⟩
          rcases following_shutdown travels budget made parts shut run with
            ended | ⟨between, later, next, after, rfl, passes, onward⟩
          -- Between two attempts the command may end, and otherwise this leg joins those before.
          · exact ended
          · have later := ih (travels.concat made passes)
              (by rw [List.length_append, List.length_singleton]; omega) onward
            simpa only [List.append_assoc] using later

/-- Once the client is closed in the middle of a command, the command is refused, or the attempt that
was under way decides its result. That a closed client is all that a command reports then fails for
two reasons alone. One is that the last of its attempts was under way, with the way to it and what
follows it, and brought no reply: the error then names the number of attempts and the cause of that last
one. The other is that a sweep over all nodes was under way, for an attempt that the command still had,
and found none. The table may be any that steps of clients lead to (`ClientState.tidy_perform`), and
others may take any steps before and after. -/
theorem execute_shutdown {command : Command} {rest : Program (Except ClientError Frame)}
    (tidy : state.topology.Tidy)
    (midway : Midway (dispatcher.execute command) state front rest now)
    (closed : now.topology.closed = true) (run : Amid Later rest now back result last)
    (unfinished : back ≠ []) :
    ∃ slot, command.slot = .ok slot ∧
      Shutdown dispatcher slot command.toFrame state front back result := by
  -- The table was tidy at the start, so it is when the client is found closed.
  have kept : ∀ (state : ClientState) (op : Op) (choice : op.Choice), state.topology.Tidy →
      (state.perform op choice).2.topology.Tidy :=
    fun _ op choice tidy => ClientState.tidy_perform tidy op choice
  have shut : now.Shut := ⟨midway.keeps kept tidy, closed⟩
  cases rest with
  -- A program without steps leaves none to be taken, against what was assumed.
  | done value => exact absurd (amid_done_iff.1 run).1 unfinished
  | ask op next =>
    unfold execute at midway
    split at midway
    · -- A command that cannot be routed is over before it takes a step.
      cases midway
    · rename_i slot routable
      exact ⟨slot, routable, run_shutdown (.here {} state) (Nat.zero_add _) midway shut run⟩

/-- Nodes that can be reached and redirect every command for once. -/
def redirecting : (op : Op) → op.Choice :=
  Op.surroundings (fun _ => .ok ()) fun _ request =>
    match request with
    | .command _ => .ok (.error "ASK 3 :7002")
    | _ => .ok .ok

/-- A command of a single attempt that has taken some steps, and what is left of it. -/
def interrupted (steps : Nat) (command : Command) :
    Trace × Program (Except ClientError Frame) × ClientState :=
  advance redirecting steps ((Dispatcher.new .identity 1).execute command) outdated

/-- The state in which a command goes on that was interrupted to close its client. -/
def shutAfter (steps : Nat) (command : Command) : ClientState :=
  ((interrupted steps command).2.2.perform .close ()).2

/-- How the command goes on from there. -/
def afterShutdown (steps : Nat) (command : Command) :
    Except ClientError Frame × ClientState × Trace :=
  play redirecting (interrupted steps command).2.1 (shutAfter steps command)

/-- The command was interrupted there. -/
theorem midway_interrupted (steps : Nat) (command : Command) :
    Midway ((Dispatcher.new .identity 1).execute command) outdated (interrupted steps command).1
      (interrupted steps command).2.1 (shutAfter steps command) :=
  (midway_advance redirecting steps _ outdated).meanwhile (.single _ .close ())

/-- The command goes on so. -/
theorem amid_afterShutdown (steps : Nat) (command : Command) :
    Amid Later (interrupted steps command).2.1 (shutAfter steps command)
      (afterShutdown steps command).2.2 (afterShutdown steps command).1
      (afterShutdown steps command).2.1 :=
  (alone_play redirecting _ _).amid

/-- A command that had been sent when its client was closed, and was redirected then, had been in its
last attempt. -/
theorem execute_shutdown_redirected :
    ∃ slot, (Command.get (Utf8.encode "raw")).slot = .ok slot ∧
      Shutdown (Dispatcher.new .identity 1) slot (Command.get (Utf8.encode "raw")).toFrame outdated
        (interrupted 7 (.get (Utf8.encode "raw"))).1 (afterShutdown 7 (.get (Utf8.encode "raw"))).2.2
        (.error (.tooManyRedirections 1 (.ask 3 "127.0.0.1:7002"))) := by
  -- The client was made and given one slot, and has taken steps of the command since.
  have tidy : outdated.topology.Tidy :=
    (Topology.Tidy.of_consistent (Topology.consistent_new {})).assign [3] ⟨"127.0.0.1", 7000⟩ |>.1
  have closed : (shutAfter 7 (.get (Utf8.encode "raw"))).topology.closed = true := by
    decide +kernel
  have ended : (afterShutdown 7 (.get (Utf8.encode "raw"))).1 =
        .error (.tooManyRedirections 1 (.ask 3 "127.0.0.1:7002")) ∧
      (afterShutdown 7 (.get (Utf8.encode "raw"))).2.2.length ≠ 0 := by
    decide +kernel
  obtain ⟨result, unfinished⟩ := ended
  -- All that the theorem asks for is known of this run, and its result is computed.
  have shutdown := execute_shutdown tidy (midway_interrupted 7 _) closed (amid_afterShutdown 7 _)
    (fun none => unfinished (congrArg List.length none))
  rwa [result] at shutdown

/-- A command ends with an error after its client was closed in the middle of it. -/
def EndsShut (command : Command) (error : ClientError) : Prop :=
  ∃ front rest now back last,
    Midway ((Dispatcher.new .identity 1).execute command) outdated front rest now ∧
      now.topology.closed = true ∧ Amid Later rest now back (.error error) last

/-- A command that ends with an error after some of its steps and the closing of its client. -/
theorem endsShut_of_afterShutdown {steps : Nat} {command : Command} {error : ClientError}
    (closed : (shutAfter steps command).topology.closed = true)
    (ended : (afterShutdown steps command).1 = .error error) : EndsShut command error :=
  ⟨_, _, _, _, _, midway_interrupted steps command, closed, ended ▸ amid_afterShutdown steps command⟩

/-- After a client was closed in the middle of a command it may still be said that there were too many
redirects, that the cluster was unavailable or that no node could be reached. -/
theorem exhausted_or_unreachable_after_close :
    EndsShut (.get (Utf8.encode "raw")) (.tooManyRedirections 1 (.ask 3 "127.0.0.1:7002")) ∧
      EndsShut (.get (Utf8.encode "raw")) (.clusterUnavailable 1 (.poolClosed "localhost:7000")) ∧
      EndsShut .ping (.noReachableNode (some (.poolClosed "localhost:7000"))) := by
  have closed : (shutAfter 7 (.get (Utf8.encode "raw"))).topology.closed = true ∧
      (shutAfter 3 (.get (Utf8.encode "raw"))).topology.closed = true ∧
      (shutAfter 3 .ping).topology.closed = true := by
    decide +kernel
  obtain ⟨sent, entered, sweeping⟩ := closed
  -- The redirect comes in, the place in the pool is lost, and the sweep finds a closed pool.
  exact ⟨endsShut_of_afterShutdown sent (by decide +kernel),
    endsShut_of_afterShutdown entered (by decide +kernel),
    endsShut_of_afterShutdown sweeping (by decide +kernel)⟩

end RedisCluster.Dispatcher
