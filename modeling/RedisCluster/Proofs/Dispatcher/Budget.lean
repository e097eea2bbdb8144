import RedisCluster.Proofs.Dispatcher.Itinerary

/-! The budget of a command: how many attempts it makes, and what its result says about them. -/

namespace RedisCluster.Dispatcher

open Program

variable {others : ClientState → ClientState → Prop} {dispatcher : Dispatcher} {slot : Option Nat}
  {frame : Frame} {remaining : Nat} {progress : Progress} {state last : ClientState} {trace : Trace}
  {result : Except ClientError Frame} {legs : List Leg} {error : ClientError}

/-- An error stops a command right after the step that it comes from: on the way to an attempt, in the
attempt, or when a closed client refuses the new owner of a slot. Every leg before was followed by
another attempt. -/
inductive Stopped (dispatcher : Dispatcher) (others : ClientState → ClientState → Prop)
    (slot : Option Nat) (frame : Frame) (progress : Progress) (state : ClientState) :
    List Leg → Trace → ClientError → Prop where
  -- The way to the next attempt led nowhere, so the last leg is one that was made before.
  | unrouted {legs : List Leg} {before aiming : Trace} {reached : Progress} {now last : ClientState}
      {error : ClientError}
      (travels : dispatcher.Travels others slot frame progress state legs before reached now)
      (aimed : Amid others (dispatcher.aim slot reached.route) now aiming (.error error) last) :
      Stopped dispatcher others slot frame progress state legs (before ++ aiming) error
  -- The attempt itself broke off with the error.
  | failed {legs : List Leg} {before : Trace} {reached : Progress} {now : ClientState} {leg : Leg}
      {error : ClientError}
      (travels : dispatcher.Travels others slot frame progress state legs before reached now)
      (made : dispatcher.MakesAmid others slot frame reached.route now leg)
      (failed : leg.attempt.outcome = .error error) :
      Stopped dispatcher others slot frame progress state (legs ++ [leg])
        (before ++ (leg.aiming ++ leg.attempt.steps)) error
  -- The attempt was redirected for good, and the closed client did not take that in.
  | unassigned {legs : List Leg} {before : Trace} {reached : Progress} {now : ClientState} {leg : Leg}
      {moved : Nat} {target : Endpoint}
      (travels : dispatcher.Travels others slot frame progress state legs before reached now)
      (made : dispatcher.MakesAmid others slot frame reached.route now leg)
      (redirected : leg.attempt.outcome = .ok (.moved moved target)) :
      Stopped dispatcher others slot frame progress state (legs ++ [leg])
        (before ++ (leg.aiming ++ (leg.attempt.steps ++
          [⟨.assign [moved] (dispatcher.translator.apply target), .error .clientClosed⟩])))
        .clientClosed

/-- Another leg may come first. -/
theorem Stopped.cons {next : Progress} {after : ClientState} {leg : Leg} {between rest : Trace}
    (made : dispatcher.MakesAmid others slot frame progress.route state leg)
    (passes : dispatcher.PassesAmid others progress leg.attempt leg.finish between next after)
    (stopped : Stopped dispatcher others slot frame next after legs rest error) :
    Stopped dispatcher others slot frame progress state (leg :: legs)
      (leg.aiming ++ (leg.attempt.steps ++ (between ++ rest))) error := by
  -- It joins the travels, whatever has stopped the command behind them.
  have regroup : ∀ before tail : Trace,
      leg.aiming ++ (leg.attempt.steps ++ (between ++ (before ++ tail))) =
        leg.aiming ++ (leg.attempt.steps ++ (between ++ before)) ++ tail := by
    intro before tail
    simp only [List.append_assoc]
  cases stopped with
  | unrouted travels aimed =>
    rw [regroup]
    exact .unrouted (.on made passes travels) aimed
  | failed travels final failed =>
    rw [regroup, ← List.cons_append]
    exact .failed (.on made passes travels) final failed
  | unassigned travels final redirected =>
    rw [regroup, ← List.cons_append]
    exact .unassigned (.on made passes travels) final redirected

/-- The error of a command that is out of attempts is a verdict. -/
theorem outOfAttempts_isExhaustion (dispatcher : Dispatcher) (progress : Progress) :
    (dispatcher.outOfAttempts progress).isExhaustion = true := by
  -- Redirected at all or not decides between the two verdicts.
  unfold outOfAttempts
  dsimp only
  split <;> rfl

namespace ItineraryAmid

/-- No more attempts are made than were left at first. -/
theorem length_le
    (itinerary : dispatcher.ItineraryAmid others slot frame remaining progress state legs trace result
      last) : legs.length ≤ remaining := by
  -- An itinerary that ends without a leg, or with its first one, had an attempt left for it.
  induction itinerary with
  | spent progress state => exact Nat.le_refl 0
  | lost aimed => exact Nat.zero_le _
  | decided made ended => exact Nat.succ_le_succ (Nat.zero_le _)
  | refused made redirected meanwhile refused => exact Nat.succ_le_succ (Nat.zero_le _)
  -- The leg takes one attempt away from those that are left for the others.
  | on made passes later ih => exact Nat.succ_le_succ ih

/-- Every attempt was really made. -/
theorem ran
    (itinerary : dispatcher.ItineraryAmid others slot frame remaining progress state legs trace result
      last) : ∀ leg ∈ legs, leg.attempt.Ran others frame := by
  -- The legs are gone through as the itinerary makes them.
  induction itinerary with
  | spent progress state => exact List.forall_mem_nil _
  | lost aimed => exact List.forall_mem_nil _
  | decided made ended => exact List.forall_mem_singleton.2 made.ran
  | refused made redirected meanwhile refused => exact List.forall_mem_singleton.2 made.ran
  | on made passes later ih => exact List.forall_mem_cons.2 ⟨made.ran, ih⟩

/-- A command shows the commands of its attempts and no others. -/
theorem commands
    (itinerary : dispatcher.ItineraryAmid others slot frame remaining progress state legs trace result
      last) : trace.commands = legs.flatMap (·.attempt.steps.commands) := by
  refine itinerary.filterMap fun exchange own => ?_
  rcases exchange with ⟨op, answer⟩
  -- Of all that is sent, a caller's command is no business of the client's own.
  cases op with
  | send lease request => cases request <;> first | rfl | simp [Op.isBusiness] at own
  | _ => rfl

/-- A reply is the outcome of the last attempt, and every attempt before was followed by another. -/
theorem replied {reply : Frame}
    (itinerary : dispatcher.ItineraryAmid others slot frame remaining progress state legs trace
      (.ok reply) last) :
    ∃ earlier final before reached now, legs = earlier ++ [final] ∧
      trace = before ++ (final.aiming ++ final.attempt.steps) ∧
      dispatcher.Travels others slot frame progress state earlier before reached now ∧
      final.attempt.outcome = .ok (.reply reply) := by
  -- A reply cannot end an itinerary in any way but by the attempt that brought it.
  -- Reading the itinerary from the front, the travels grow by one leg at each turn.
  generalize replied : Except.ok reply = result at itinerary
  induction itinerary with
  | spent progress state => cases replied
  | lost aimed => cases replied
  | @decided remaining progress state leg result made ended =>
    subst replied
    exact ⟨[], leg, [], progress, state, rfl, rfl, .here progress state,
      Attempt.verdict?_eq_some_iff.1 ended⟩
  | refused made redirected meanwhile refused => cases replied
  -- This leg joins the travels, and the last one stays the last.
  | on made passes later ih =>
    obtain ⟨earlier, final, before, reached, now, rfl, rfl, travels, normal⟩ := ih replied
    exact ⟨_ :: earlier, final, _, reached, now, rfl, by simp only [List.append_assoc],
      .on made passes travels, normal⟩

/-- A verdict comes after as many legs as there were attempts, each of which called for another. -/
theorem exhausted
    (itinerary : dispatcher.ItineraryAmid others slot frame remaining progress state legs trace
      (.error error) last) (verdict : error.isExhaustion = true)
    (honest : ∀ exchange ∈ trace, ∀ error, exchange.failure? = some error →
      error.isExhaustion = false) :
    ∃ reached now, legs.length = remaining ∧
      dispatcher.Travels others slot frame progress state legs trace reached now ∧
      error = dispatcher.outOfAttempts reached := by
  -- The verdict is given when no attempt is left, and never before: each other end is ruled out.
  generalize judged : Except.error error = result at itinerary
  induction itinerary with
  | spent progress state =>
    exact ⟨progress, state, rfl, .here progress state, Except.error.inj judged⟩
  -- A client that is closed or finds nobody alive passes no verdict.
  | lost aimed =>
    obtain rfl := Except.error.inj judged
    rcases aimed.yields (aim_yields _ _ _) error rfl with rfl | ⟨cause, rfl⟩
    · cases verdict
    · cases verdict
  | @decided remaining progress state leg result made ended =>
    subst judged
    have failed : leg.attempt.outcome = .error error := Attempt.verdict?_eq_some_iff.1 ended
    -- Nodes do not judge commands, and no other error of an attempt is a verdict.
    rcases made.ran.cases.1 error failed with reported | ⟨exchange, member, theirs⟩
    · simp [ClientError.isExhaustion_of_isReported reported] at verdict
    · simp [honest exchange (List.mem_append_right _ member) error theirs] at verdict
  -- A closed client gives its own error, which is no verdict either.
  | refused made redirected meanwhile refused =>
    obtain rfl := Except.error.inj judged
    obtain rfl := assign_error (congrArg Prod.fst refused)
    cases verdict
  -- What is honest in the whole is honest in the part behind this leg.
  | on made passes later ih =>
    have honest := fun exchange member => honest exchange
      (List.mem_append_right _ (List.mem_append_right _ (List.mem_append_right _ member)))
    obtain ⟨reached, now, used, travels, same⟩ := ih honest judged
    exact ⟨reached, now, congrArg (· + 1) used, .on made passes travels, same⟩

/-- An error is the verdict on the attempts, or stops the command where it comes up. -/
theorem stopped
    (itinerary : dispatcher.ItineraryAmid others slot frame remaining progress state legs trace
      (.error error) last) :
    error.isExhaustion = true ∨ Stopped dispatcher others slot frame progress state legs trace error := by
  generalize failed : Except.error error = result at itinerary
  induction itinerary with
  -- The command stops right behind this first leg, or it goes on and stops later.
  | spent progress state =>
    obtain rfl := Except.error.inj failed
    exact .inl (outOfAttempts_isExhaustion dispatcher progress)
  | lost aimed =>
    obtain rfl := Except.error.inj failed
    exact .inr (.unrouted (.here _ _) aimed)
  | @decided remaining progress state leg result made ended =>
    subst failed
    exact .inr (.failed (.here progress state) made (Attempt.verdict?_eq_some_iff.1 ended))
  | refused made redirected meanwhile refused =>
    -- Only a closed client refuses to note the new owner.
    obtain rfl := Except.error.inj failed
    obtain rfl := assign_error (congrArg Prod.fst refused)
    exact .inr (.unassigned (.here _ _) made redirected)
  | on made passes later ih => exact (ih failed).imp_right (.cons made passes)

end ItineraryAmid

/-- The runs of a command are its itineraries, whose traces consist of the steps of their legs and of
those between them. In each of them the command has as many attempts as it may at most, each of which
sends it once at most, and none of them comes after a reply or an error. Its result tells how they
went: a reply is what the node of the last attempt answered to the command; a verdict comes after the
last attempt that there was, and names its cause; and any other error is the last thing that
happened. -/
theorem execute_accounted {command : Command} (routable : command.slot = .ok slot)
    (run : Amid others (dispatcher.execute command) state trace result last)
    (honest : ∀ exchange ∈ trace, ∀ error, exchange.failure? = some error →
      error.isExhaustion = false) :
    (∃ legs, dispatcher.ItineraryAmid others slot command.toFrame dispatcher.maxRedirects {} state legs
      trace result last) ∧
    ∀ legs, dispatcher.ItineraryAmid others slot command.toFrame dispatcher.maxRedirects {} state legs
        trace result last →
      (∀ leg ∈ legs, leg.attempt.Ran others command.toFrame) ∧
      (legs.length ≤ dispatcher.maxRedirects ∧
        trace.commands = legs.flatMap (·.attempt.steps.commands) ∧
        ∀ leg ∈ legs, leg.attempt.steps.commands = [] ∨ ∃ lease,
          lease.endpoint = leg.attempt.pool.endpoint ∧
            leg.attempt.steps.commands = [(lease, command.toFrame)]) ∧
      (∀ reply, result = .ok reply → reply.asError = none ∧
        ∃ earlier final lease, legs = earlier ++ [final] ∧
          (∀ leg ∈ earlier, leg.attempt.Deflected) ∧
          lease.endpoint = final.attempt.pool.endpoint ∧
          final.attempt.steps.commands = [(lease, command.toFrame)] ∧
          final.attempt.steps.replies = [(lease, .ok reply)]) ∧
      (∀ error, result = .error error → error.isExhaustion = true →
        legs.length = dispatcher.maxRedirects ∧ (∀ leg ∈ legs, leg.attempt.Deflected) ∧
          ∃ earlier final cause, legs = earlier ++ [final] ∧
            final.attempt.cause? dispatcher.translator = some cause ∧
            error = if legs.any (·.attempt.isRedirected)
              then .tooManyRedirections dispatcher.maxRedirects cause
              else .clusterUnavailable dispatcher.maxRedirects cause) ∧
      (∀ error, result = .error error → error.isExhaustion = false →
        Stopped dispatcher others slot command.toFrame {} state legs trace error) := by
  -- A command that can be routed is its attempts, so its runs are the itineraries.
  unfold execute at run
  rw [routable] at run
  refine ⟨run_amid_iff.1 run, fun legs itinerary => ⟨itinerary.ran, ⟨itinerary.length_le,
    itinerary.commands, fun leg member => ?_⟩, fun reply normal => ?_, fun error failed verdict => ?_,
    fun error failed sudden => ?_⟩⟩
  -- Either no connection was got and nothing was sent, or the command was, once.
  · rcases (itinerary.ran leg member).cases.2 with ⟨unsent, _⟩ | ⟨lease, _, there, sent, _⟩
    · exact .inl unsent
    · exact .inr ⟨lease, there, sent⟩
  · subst normal
    obtain ⟨earlier, final, _, _, _, rfl, _, travels, outcome⟩ := itinerary.replied
    -- The outcome is a reply only if the command was sent and that reply is the answer to it.
    rcases (itinerary.ran final (by simp)).cases.2 with ⟨_, _, never⟩ |
      ⟨lease, answer, there, sent, replied, judged⟩
    · exact absurd outcome (never reply)
    · obtain ⟨rfl, normal⟩ := Redirect.classify_reply (judged.symm.trans outcome)
      exact ⟨normal, earlier, final, lease, rfl, travels.deflected, there, sent, replied⟩
  -- A verdict names what is left of the travels: their number, and the cause of the last leg.
  · subst failed
    obtain ⟨reached, now, used, travels, rfl⟩ := itinerary.exhausted verdict honest
    have deflected := travels.deflected
    -- At least one attempt was made, so there is a last one.
    obtain ⟨earlier, final, rfl⟩ : ∃ earlier final, legs = earlier ++ [final] := by
      rcases List.eq_nil_or_concat legs with rfl | ⟨earlier, final, same⟩
      · exact absurd used (Nat.ne_of_lt dispatcher.maxRedirects_pos)
      · exact ⟨earlier, final, by rw [same, List.concat_eq_append]⟩
    obtain ⟨cause, named⟩ := (deflected final (by simp)).exists_cause dispatcher.translator
    exact ⟨used, deflected, earlier, final, cause, rfl, named, travels.noted.outOfAttempts named⟩
  -- An error that is no verdict has stopped the command.
  · subst failed
    refine itinerary.stopped.resolve_left fun verdict => ?_
    simp [verdict] at sudden

/-- A command without keys for which every node refers to the same other one, over and over. -/
def referral : Except ClientError Frame × ClientState × Trace :=
  Program.play
    (Op.surroundings (fun _ => .ok ()) fun _ request =>
      match request with
      | .command _ => .ok (.error "MOVED 5 127.0.0.1:7001")
      | _ => .ok (.simple "PONG"))
    ((Dispatcher.new .identity 2).execute .ping)
    ((ClientState.initial {}).perform (.register ⟨"127.0.0.1", 7000⟩) ()).2

/-- A command that is referred on without end is given up after the last of its attempts. -/
theorem execute_accounted_of_referral :
    ∃ state legs error, (Dispatcher.new .identity 2).Itinerary none Command.ping.toFrame 2 {} state legs
        referral.2.2 (.error error) referral.2.1 ∧ referral.1 = .error error ∧
      error.isExhaustion = true ∧ legs.length = 2 ∧ ∀ leg ∈ legs, leg.attempt.Deflected := by
  -- The run is closed, so what it came to and what was said in it are computed.
  have judged : (match referral.1 with
      | .error error => error.isExhaustion
      | .ok _ => false) = true := by
    decide +kernel
  have harmless : referral.2.2.all (fun exchange => exchange.failure?.isNone) = true := by
    decide +kernel
  -- None of the steps failed, so no failure could pose as a verdict.
  have honest : ∀ exchange ∈ referral.2.2, ∀ error, exchange.failure? = some error →
      error.isExhaustion = false := by
    intro exchange member error failed
    have none_failed := List.all_eq_true.1 harmless exchange member
    simp [failed] at none_failed
  obtain ⟨⟨legs, itinerary⟩, accounted⟩ :=
    execute_accounted rfl (Program.alone_play _ _ _) honest
  cases outcome : referral.1 with
  | ok reply => simp [outcome] at judged
  | error error =>
    obtain ⟨-, -, -, verdict, -⟩ := accounted legs itinerary
    rw [outcome] at judged
    obtain ⟨all, deflected, -⟩ := verdict error outcome judged
    have itinerary : (Dispatcher.new .identity 2).Itinerary none Command.ping.toFrame 2 {} _ legs
        referral.2.2 referral.1 referral.2.1 := itinerary
    rw [outcome] at itinerary
    exact ⟨_, legs, error, itinerary, rfl, judged, all, deflected⟩

end RedisCluster.Dispatcher
