import RedisCluster.Proofs.Dispatcher.Chronicle
import RedisCluster.Proofs.Dispatcher.Undisturbed
import RedisCluster.Proofs.Topology.Calls
import RedisCluster.Proofs.Topology.Ready

/-! A command that is referred from node to node: it follows every redirect as far as its budget
goes, and only permanent redirects stay in the routing table. -/

namespace RedisCluster

/-- One redirect, permanent or for this once. -/
inductive Hop where
  | moved (target : Endpoint)
  | ask (target : Endpoint)
deriving Repr, DecidableEq

namespace Hop

/-- What an answer that redirects means. -/
def signal (slot : Nat) : Hop → Signal
  | moved target => .moved slot target
  | ask target => .ask slot target

/-- The node that a redirect leads to, at an address that the client can reach. -/
def node (translator : Translator) : Hop → Endpoint
  | moved target | ask target => translator.apply target

/-- The error that a redirect leaves behind. -/
def error (translator : Translator) (slot : Nat) : Hop → ClientError
  | moved target => .moved slot (translator.apply target).socketAddress
  | ask target => .ask slot (translator.apply target).socketAddress

/-- The owner of a slot after a redirect that names it. -/
def owner (translator : Translator) (before : Endpoint) : Hop → Endpoint
  | moved target => translator.apply target
  | ask _ => before

end Hop

/-- The nodes that were asked redirect one after the other, and the next one gives the reply. -/
def PlaysOut (slot : Nat) (reply : Frame) :
    List Hop → List (Lease × Except ClientError Frame) → Prop
  -- A trace may end before all redirects were given.
  | _, [] => True
  -- After the last redirect the next node replies, and nothing is asked of those behind.
  | [], (_, answer) :: _ => answer = .ok reply
  -- Each answer in turn has to mean the redirect that comes next.
  | hop :: hops, (lease, answer) :: rest =>
    Redirect.classify answer lease.endpoint = .ok (hop.signal slot) ∧
      PlaysOut slot reply hops rest

instance decidablePlaysOut (slot : Nat) (reply : Frame) : (hops : List Hop) →
    (answers : List (Lease × Except ClientError Frame)) → Decidable (PlaysOut slot reply hops answers)
  | [], [] | _ :: _, [] => isTrue trivial
  | [], (_, answer) :: _ => inferInstanceAs (Decidable (answer = .ok reply))
  | _ :: hops, _ :: rest =>
    have := decidablePlaysOut slot reply hops rest
    inferInstanceAs (Decidable (_ ∧ _))

/-- Whatever redirects there are for nodes to give, a program has a run in which they give them one
after the other. -/
theorem exists_playsOut {α : Type} {slot : Nat} (program : Program α) (state : ClientState)
    {hops : List Hop} (spoken : ∀ hop ∈ hops, ∃ frame, ∀ source,
      Redirect.classify (.ok frame) source = .ok (hop.signal slot)) (reply : Frame) :
    ∃ trace value last, Program.Alone program state trace value last ∧
      (∀ exchange ∈ trace, exchange.Willing) ∧ PlaysOut slot reply hops trace.replies := by
  -- The program is gone through step by step, with the redirects that are still to be given.
  induction program generalizing state hops with
  | done value => exact ⟨[], value, state, .done value state, by simp, by cases hops <;> trivial⟩
  | ask op next ih =>
    -- Every step goes well, and each command uses up one of the redirects.
    have goes : ∀ (frame : Frame) {rest : List Hop},
        (op.carriesCommand = false → frame.asError = none) →
        (∀ hop ∈ rest, ∃ frame, ∀ source,
          Redirect.classify (.ok frame) source = .ok (hop.signal slot)) →
        ∃ (trace : Trace) (value : α) (last : ClientState),
          Program.Alone (.ask op next) state
            (⟨op, (state.perform op (op.affirmative frame)).1⟩ :: trace) value last ∧
          (∀ exchange ∈ Exchange.mk op (state.perform op (op.affirmative frame)).1 :: trace,
            exchange.Willing) ∧ PlaysOut slot reply rest trace.replies := by
      intro frame rest acknowledges spoken
      obtain ⟨trace, value, last, run, willing, plays⟩ :=
        ih _ (state.perform op (op.affirmative frame)).2 spoken
      exact ⟨trace, value, last, .ask rfl _ run,
        List.forall_mem_cons.2 ⟨op.affirmative_willing state acknowledges, willing⟩, plays⟩
    -- Only the answer to a command takes a redirect off the list.
    by_cases commanded : ∃ lease frame, op = .answer lease (.command frame)
    · obtain ⟨lease, frame, rfl⟩ := commanded
      cases hops with
      | nil =>
        obtain ⟨trace, value, last, run, willing, -⟩ := goes reply nofun spoken
        exact ⟨_, value, last, run, willing, rfl⟩
      | cons hop hops =>
        obtain ⟨redirect, means⟩ := spoken hop List.mem_cons_self
        obtain ⟨trace, value, last, run, willing, plays⟩ := goes redirect nofun fun other member =>
          spoken other (List.mem_cons_of_mem _ member)
        exact ⟨_, value, last, run, willing, means _, plays⟩
    · obtain ⟨trace, value, last, run, willing, plays⟩ := goes .ok (fun _ => rfl) spoken
      refine ⟨_, value, last, run, willing, ?_⟩
      -- Any other step answers no command, so the list stays as it is.
      have unanswered : Exchange.reply? ⟨op, (state.perform op (op.affirmative .ok)).1⟩ = none := by
        cases op with
        | answer lease request =>
          cases request with
          | command frame => exact absurd ⟨lease, frame, rfl⟩ commanded
          | _ => rfl
        | _ => rfl
      rw [Trace.replies_cons, unanswered]
      exact plays

/-- A command went to some nodes in their order, whatever the spelling of their hosts. -/
def SentTo (frame : Frame) : List (Lease × Frame) → List Endpoint → Prop
  -- As many commands as nodes, and both are compared in their order.
  | [], [] => True
  | (lease, sent) :: rest, node :: nodes =>
    lease.endpoint.sameNode node = true ∧ sent = frame ∧ SentTo frame rest nodes
  | _, _ => False

/-- As many commands were sent as there are nodes. -/
theorem SentTo.length_eq {frame : Frame} {sent : List (Lease × Frame)} {nodes : List Endpoint}
    (went : SentTo frame sent nodes) : sent.length = nodes.length := by
  induction sent generalizing nodes with
  -- Without commands there were no nodes to go to.
  | nil => cases nodes <;> simp_all [SentTo]
  | cons first rest ih =>
    cases nodes with
    | nil => exact went.elim
    | cons node nodes =>
      simp only [List.length_cons, Nat.add_right_cancel_iff]
      exact ih went.2.2

namespace Dispatcher

open Program

variable {dispatcher : Dispatcher} {state last : ClientState} {slot : Nat} {frame reply : Frame}
  {node own : Endpoint} {trace steps : Trace} {progress : Progress} {route : Route}

/-- The next attempt goes to a node: the owner of the slot, or the one that a redirect named. -/
def Heads (topology : Topology) (slot : Nat) : Route → Endpoint → Prop
  | .owner, node => topology.OwnedBy slot node
  | .asking target, node => target = node

/-- The error of a command whose attempts ended in some redirects. -/
def verdict (dispatcher : Dispatcher) (slot : Nat) (progress : Progress) (hops : List Hop) :
    ClientError :=
  match hops.getLast? with
  | none => dispatcher.outOfAttempts progress
  | some hop => .tooManyRedirections dispatcher.maxRedirects (hop.error dispatcher.translator slot)

/-- An attempt for a slot with an owner is aimed at the owner, and nothing else is looked at. -/
theorem aim_owned {ref : PoolRef} {result : Except ClientError (PoolRef × Bool)}
    (accepting : state.topology.closed = false) (owns : state.topology.owner slot = some ref)
    (run : Alone (dispatcher.aim (some slot) .owner) state steps result last) :
    result = .ok (ref, false) ∧ last = state ∧
      steps = [⟨.isClosed, false⟩, ⟨.owner slot, some ref⟩] := by
  -- The client is open, and the slot has an owner: both answers are known from the state.
  obtain ⟨_, rest, rfl, choosing⟩ := alone_ask_iff.1 run
  simp only [ClientState.perform, accepting, bind_done] at choosing
  obtain ⟨_, rest, rfl, owned⟩ := alone_ask_iff.1 choosing
  simp only [ClientState.perform, owns] at owned
  obtain ⟨rfl, rfl, rfl⟩ := amid_done_iff.1 owned
  exact ⟨rfl, rfl, by simp only [ClientState.perform, accepting, owns]⟩

/-- An attempt is aimed at a free pool of the node that it goes to, and at nothing else. -/
theorem aim_alone (ready : state.topology.Ready) (heads : Heads state.topology slot route node)
    {result : Except ClientError (PoolRef × Bool)}
    (run : Alone (dispatcher.aim (some slot) route) state steps result last) :
    ∃ ref asking pool, result = .ok (ref, asking) ∧ ref.endpoint.sameNode node = true ∧
      last.topology.pool? ref.id = some pool ∧ pool.Free ref.endpoint ∧ last.topology.Ready ∧
      (∀ slot, last.topology.owner slot = state.topology.owner slot) ∧ steps.Unprobed := by
  cases route with
  | owner =>
    -- The slot has an owner, so nothing has to be found out first.
    obtain ⟨ref, owns, same⟩ := heads
    obtain ⟨pool, found, free⟩ := ready.free_of_owner owns
    obtain ⟨rfl, rfl, rfl⟩ := aim_owned ready.accepting owns run
    exact ⟨ref, false, pool, rfl, same, found, free, ready, fun _ => rfl,
      by simp [Trace.Unprobed, Op.isProbe]⟩
  | asking target =>
    -- The target is looked up or registered, which leaves every slot to its owner.
    obtain rfl : target = node := heads
    have unprobed : Trace.Unprobed [⟨.isClosed, false⟩] := by simp [Trace.Unprobed, Op.isProbe]
    obtain ⟨_, rest, rfl, choosing⟩ := alone_ask_iff.1 run
    simp only [ClientState.perform, ready.accepting, bind_done] at choosing
    obtain ⟨looking, nothing, got, middle, rfl, looked, ended⟩ := amid_bind_iff.1 choosing
    obtain ⟨rfl, rfl⟩ := Topology.alone_getOrCreate ready.consistent looked
    obtain ⟨rfl, rfl, rfl⟩ := amid_done_iff.1 ended
    obtain ⟨ref, answer, same, grown, ⟨pool, found, free⟩, kept⟩ := ready.register target
    -- Neither of the two is a question to a node.
    have idle : (getOrCreate target).Within fun op => op.isProbe = false := by
      refine ⟨rfl, fun known => ?_⟩
      cases known with
      | some pool => trivial
      | none => exact ⟨rfl, fun _ => trivial⟩
    rw [answer]
    refine ⟨ref, true, pool, rfl, same, found, free, grown, kept, ?_⟩
    simpa [ClientState.perform, ready.accepting] using unprobed.append (looked.within idle)

/-- A redirect that is followed gives the slot to its node if it is permanent, and leads there. -/
theorem follow_alone {hop : Hop} {remaining : Nat} {ref : PoolRef}
    {result : Except ClientError Frame} (ready : state.topology.Ready)
    (owned : state.topology.OwnedBy slot own)
    (run : Alone (dispatcher.follow (some slot) frame remaining progress ref (.ok (hop.signal slot)))
      state trace result last) :
    ∃ between rest middle next, trace = between ++ rest ∧ between.Unprobed ∧ between.Quiet ∧
      Alone (dispatcher.run (some slot) frame remaining next) middle rest result last ∧
      middle.topology.Ready ∧
      Heads middle.topology slot next.route (hop.node dispatcher.translator) ∧
      middle.topology.OwnedBy slot (hop.owner dispatcher.translator own) ∧
      (∀ other, other ≠ slot → middle.topology.owner other = state.topology.owner other) ∧
      next.redirected = true ∧ next.lastError = some (hop.error dispatcher.translator slot) := by
  cases hop with
  | ask target =>
    -- A redirect for this once is kept in the route and nowhere else.
    exact ⟨[], trace, state, _, rfl, by simp [Trace.Unprobed], .nil, run, ready, rfl, owned,
      fun _ _ => rfl, rfl, rfl⟩
  | moved target =>
    -- The next attempt looks its node up in the table that the redirect has changed.
    obtain ⟨ref, owns, _⟩ := owned
    obtain ⟨owner, answer, again, given, kept⟩ :=
      ready.assign (Topology.lt_of_owner owns) (dispatcher.translator.apply target)
    obtain ⟨_, rest, rfl, assigned⟩ := alone_ask_iff.1 run
    simp only [ClientState.perform, ClientState.withTopology, answer, bind_done] at assigned
    refine ⟨[_], rest, _, _, rfl, ?_, ?_, assigned, again, given, given, kept, rfl, rfl⟩
    · simp [Trace.Unprobed, Op.isProbe]
    · exact .single rfl

/-- An attempt of a command sends it to the node that it heads for, and goes on with what the answer
means; the routing table stays as it was. -/
theorem run_alone {remaining : Nat} {result : Except ClientError Frame}
    (ready : state.topology.Ready) (heads : Heads state.topology slot progress.route node)
    (run : Alone (dispatcher.run (some slot) frame (remaining + 1) progress) state trace result last)
    (willing : ∀ exchange ∈ trace, exchange.Willing) :
    ∃ made rest middle ref lease answer, trace = made ++ rest ∧
      lease.endpoint.sameNode node = true ∧ made.commands = [(lease, frame)] ∧
      made.replies = [(lease, answer)] ∧ made.Unprobed ∧ middle.topology.Ready ∧
      (∀ slot, middle.topology.owner slot = state.topology.owner slot) ∧
      Alone (dispatcher.follow (some slot) frame remaining progress ref
        (Redirect.classify answer lease.endpoint)) middle rest result last := by
  -- Getting there, making the attempt, and going on by its answer are taken one by one.
  rw [run_succ] at run
  obtain ⟨aiming, attempted, aimed, aside, rfl, aims, run⟩ := amid_bind_iff.1 run
  have quiet := aims.quiet (aim_errand dispatcher (some slot) progress.route).quiet
  obtain ⟨ref, asking, pool, rfl, same, found, free, ready, kept, unprobed⟩ :=
    aim_alone ready heads aims
  obtain ⟨made, rest, outcome, middle, rfl, attempt, run⟩ := amid_bind_iff.1 run
  obtain ⟨left, lease, answer, rfl, again, there, sent, replied, rfl⟩ :=
    attempt_alone found free attempt fun exchange member => willing exchange (by simp [member])
  rw [← there] at run same
  -- The pool is free again, and no slot changed hands.
  rw [← free.endpoint] at again
  refine ⟨aiming ++ made, rest, _, ref, lease, answer, (List.append_assoc _ _ _).symm, same, ?_, ?_,
    ?_, ready.withPool found free.accepting again, fun slot => kept slot, run⟩
  · simp [quiet.commands, sent]
  · simp [quiet.replies, replied]
  · exact unprobed.append (attempt.within (attempt_unprobed ref frame asking))

/-- A verdict after a redirect is the one on the redirects that came later, or on this one. -/
theorem verdict_cons (progress : Progress) {next : Progress} {hop : Hop}
    (redirected : next.redirected = true)
    (lastError : next.lastError = some (hop.error dispatcher.translator slot)) (hops : List Hop) :
    dispatcher.verdict slot next hops = dispatcher.verdict slot progress (hop :: hops) := by
  cases hops with
  | nil => simp [verdict, outOfAttempts, redirected, lastError]
  | cons later hops =>
    -- The last redirect is the same one, and it alone decides.
    simp [verdict, List.getLast?_cons]

/-- With some attempts left a command follows as many redirects. The slot goes to the node of the
last permanent one, and no other slot changes hands. -/
theorem run_chain {remaining : Nat} {hops : List Hop} {result : Except ClientError Frame}
    (ready : state.topology.Ready) (heads : Heads state.topology slot progress.route node)
    (owned : state.topology.OwnedBy slot own)
    (run : Alone (dispatcher.run (some slot) frame remaining progress) state trace result last)
    (willing : ∀ exchange ∈ trace, exchange.Willing)
    (plays : PlaysOut slot reply hops trace.replies) (normal : reply.asError = none) :
    SentTo frame trace.commands
        ((node :: hops.map (·.node dispatcher.translator)).take remaining) ∧
      result = (if hops.length < remaining then .ok reply
        else .error (dispatcher.verdict slot progress (hops.take remaining))) ∧
      last.topology.OwnedBy slot
        ((hops.take remaining).foldl (Hop.owner dispatcher.translator) own) ∧
      (∀ other, other ≠ slot → last.topology.owner other = state.topology.owner other) ∧
      trace.Unprobed := by
  -- Every hop uses up an attempt, so the hops that are followed shrink with the budget.
  induction remaining generalizing hops node own progress state trace with
  | zero =>
    obtain ⟨rfl, rfl, rfl⟩ := amid_done_iff.1 run
    -- With no attempt left nothing is sent, and the verdict is on the redirects before.
    simp [SentTo, verdict, owned, Trace.Unprobed]
  | succ remaining ih =>
    obtain ⟨made, rest, middle, ref, lease, answer, rfl, same, sent, replied, unprobed, ready,
      unmoved, run⟩ := run_alone ready heads run willing
    -- The attempt has moved no slot, so the owner is still the one that it went to.
    have owned : middle.topology.OwnedBy slot own := owned.of_owner (unmoved slot)
    simp only [Trace.commands_append, sent, Trace.replies_append, replied,
      List.singleton_append] at plays ⊢
    cases hops with
    | nil =>
      -- The node gives the reply, and with it the command is over.
      obtain rfl : answer = .ok reply := plays
      rw [Redirect.classify_of_normal normal] at run
      obtain ⟨rfl, rfl, rfl⟩ := amid_done_iff.1 run
      simp [SentTo, same, owned, unmoved, unprobed]
    | cons hop hops =>
      -- The node redirects, and the rest of the run starts at the node that it named.
      obtain ⟨redirects, plays⟩ := plays
      rw [redirects] at run
      obtain ⟨between, later, after, next, rfl, silent, quiet, run, ready, heads, given, kept,
        redirected, lastError⟩ := follow_alone ready owned run
      rw [Trace.replies_append, quiet.replies, List.nil_append] at plays
      obtain ⟨went, ended, owner, others, own⟩ :=
        ih ready heads given run (fun exchange member => willing exchange (by simp [member])) plays
      refine ⟨⟨same, rfl, ?_⟩, ?_, owner, fun other apart => ?_,
        unprobed.append (silent.append own)⟩
      -- What lies between the attempts sends nothing, so the commands are those of the two parts.
      · simpa [quiet.commands] using went
      -- The first redirect only matters to a verdict as long as no other one follows.
      · rw [ended, List.take_succ_cons, List.length_cons,
          verdict_cons progress redirected lastError]
        simp only [Nat.add_lt_add_iff_right]
      -- A slot keeps its owner in the attempt, in what follows it, and in the rest.
      · rw [others other apart, kept other apart, unmoved]

/-- A command for an owned slot is sent to the owner first and then wherever each redirect in turn
leads, as long as it has attempts left. A reply after fewer redirects than that is its result, and
otherwise the last redirect that it got is the cause of its failure. Only permanent redirects change
the owner of the slot, nothing changes the owner of another one, and the client asks no questions
of its own. That there are such runs for all redirects is `exists_playsOut`. -/
theorem execute_follows_chain {command : Command} {hops : List Hop}
    {result : Except ClientError Frame} {first : Endpoint}
    (keyed : command.slot = .ok (some slot)) (ready : state.topology.Ready)
    (owned : state.topology.OwnedBy slot first)
    (run : Alone (dispatcher.execute command) state trace result last)
    (willing : ∀ exchange ∈ trace, exchange.Willing)
    (plays : PlaysOut slot reply hops trace.replies) (normal : reply.asError = none) :
    (hops.length < dispatcher.maxRedirects →
        result = .ok reply ∧ trace.commands.length = hops.length + 1) ∧
      (dispatcher.maxRedirects ≤ hops.length →
        trace.commands.length = dispatcher.maxRedirects ∧
          ∃ hop, hops[dispatcher.maxRedirects - 1]? = some hop ∧
            result = .error (.tooManyRedirections dispatcher.maxRedirects
              (hop.error dispatcher.translator slot))) ∧
      SentTo command.toFrame trace.commands
        ((first :: hops.map (·.node dispatcher.translator)).take dispatcher.maxRedirects) ∧
      last.topology.OwnedBy slot
        ((hops.take dispatcher.maxRedirects).foldl (Hop.owner dispatcher.translator) first) ∧
      (∀ other, other ≠ slot → last.topology.owner other = state.topology.owner other) ∧
      ∀ sent ∈ trace.requests, sent.2 ≠ .ping ∧ sent.2 ≠ .layout := by
  simp only [execute, keyed] at run
  -- The first attempt goes to the owner.
  have heads : Heads state.topology slot ({} : Progress).route first := owned
  obtain ⟨went, ended, owner, others, unprobed⟩ :=
    run_chain ready heads owned run willing plays normal
  have count := went.length_eq
  simp only [List.length_take, List.length_cons, List.length_map] at count
  refine ⟨fun few => ?_, fun many => ?_, went, owner, others, unprobed.requests⟩
  -- With more attempts than redirects the node behind the last one replies.
  · rw [if_pos few] at ended
    exact ⟨ended, by omega⟩
  -- With too few of them the command breaks off.
  · rw [if_neg (by omega)] at ended
    refine ⟨by omega, ?_⟩
    -- There is a redirect for each of the attempts, and the last of these counts.
    have positive := dispatcher.maxRedirects_pos
    have within : dispatcher.maxRedirects - 1 < hops.length := by omega
    have final := List.getElem?_eq_getElem within
    refine ⟨_, final, ?_⟩
    rw [ended, verdict, List.getLast?_take, if_neg (by omega), final, Option.some_or]

/-- A client that takes a node for the owner of a slot. -/
def outdated : ClientState :=
  ((ClientState.initial {}).perform (.assign [3] ⟨"127.0.0.1", 7000⟩) ()).2

/-- A command for a slot that has moved to a second node and is about to move to a third. -/
def resharding : Except ClientError Frame × ClientState × Trace :=
  Program.play
    (Op.surroundings (fun _ => .ok ()) fun lease request =>
      match request, lease.endpoint.port with
      | .command _, 7000 => .ok (.error "MOVED 3 :7001")
      | .command _, 7001 => .ok (.error "ASK 3 :7002")
      | _, _ => .ok .ok)
    ((Dispatcher.new .identity 5).execute (.get (Utf8.encode "raw"))) outdated

/-- Of two redirects in a row only the permanent one stays, and the third node has answered. -/
theorem execute_follows_resharding :
    resharding.1 = .ok .ok ∧ resharding.2.2.commands.length = 3 ∧
      resharding.2.1.topology.OwnedBy 3 ⟨"127.0.0.1", 7001⟩ := by
  -- A client that knows nobody is ready, and assigning a slot keeps it so.
  have vacant : (ClientState.initial {}).topology.Ready :=
    ⟨Topology.consistent_new {}, rfl, by decide, nofun⟩
  obtain ⟨-, -, ready, owned, -⟩ :=
    vacant.assign (by decide : 3 < slotCount) ⟨"127.0.0.1", 7000⟩
  have ready : outdated.topology.Ready := ready
  have owned : outdated.topology.OwnedBy 3 ⟨"127.0.0.1", 7000⟩ := owned
  -- The slot of the key is computed, as are the answers of the session.
  have keyed : (Command.get (Utf8.encode "raw")).slot = .ok (some 3) := by decide +kernel
  have run : Alone ((Dispatcher.new .identity 5).execute (.get (Utf8.encode "raw"))) outdated
      resharding.2.2 resharding.1 resharding.2.1 := by
    unfold resharding
    exact alone_play _ _ _
  have played : (∀ exchange ∈ resharding.2.2, exchange.Willing) ∧
      PlaysOut 3 .ok [.moved ⟨"127.0.0.1", 7001⟩, .ask ⟨"127.0.0.1", 7002⟩]
        resharding.2.2.replies := by
    decide +kernel
  -- Nothing else about the session matters.
  generalize resharding = session at run played ⊢
  obtain ⟨willing, plays⟩ := played
  obtain ⟨answered, -, -, owner, -⟩ := execute_follows_chain keyed ready owned run willing plays rfl
  obtain ⟨result, count⟩ := answered (by decide)
  exact ⟨result, count, owner⟩

end Dispatcher

end RedisCluster
