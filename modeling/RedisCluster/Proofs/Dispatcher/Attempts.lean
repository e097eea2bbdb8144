import RedisCluster.Proofs.Dispatcher.Errands
import RedisCluster.Proofs.Pool.Accounting

/-! What one attempt sends, and what it can come to. -/

namespace RedisCluster

namespace ClientError

/-- The error of a command that used up its attempts. -/
def isExhaustion : ClientError → Bool
  | tooManyRedirections .. | clusterUnavailable .. => true
  | _ => false

/-- An error that a node reports in its reply. -/
def isReported : ClientError → Bool
  | server _ | auth _ | clusterDown _ => true
  | _ => false

/-- What a node reports is no verdict on a command. -/
theorem isExhaustion_of_isReported {error : ClientError} (reported : error.isReported = true) :
    error.isExhaustion = false := by
  cases error <;> first | rfl | simp [isReported] at reported

end ClientError

/-- An attempt at a node, with its steps and its outcome. -/
structure Attempt where
  pool : PoolRef
  asking : Bool
  steps : Trace
  outcome : Except ClientError Signal

namespace Attempt

/-- The steps and the outcome are those of a run, in whatever state the run began. -/
def Ran (others : ClientState → ClientState → Prop) (frame : Frame) (attempt : Attempt) : Prop :=
  ∃ state last, Program.Amid others (Dispatcher.attempt attempt.pool frame attempt.asking) state
    attempt.steps attempt.outcome last

/-- The attempt ended in a redirect. -/
def isRedirected (attempt : Attempt) : Bool :=
  match attempt.outcome with
  | .ok (.moved _ _) | .ok (.ask _ _) => true
  | _ => false

/-- The error that tells why an attempt had to be followed by another one. -/
def cause? (translator : Translator) (attempt : Attempt) : Option ClientError :=
  match attempt.outcome with
  | .ok (.moved slot target) => some (.moved slot (translator.apply target).socketAddress)
  | .ok (.ask slot target) => some (.ask slot (translator.apply target).socketAddress)
  | .ok (.connectionFailure error) => some error
  | _ => none

/-- The attempt ended in a redirect or in a failure of the connection. -/
def Deflected (attempt : Attempt) : Prop :=
  attempt.isRedirected = true ∨ ∃ error : ClientError, error.isConnectivity = true ∧
    attempt.outcome = .ok (.connectionFailure error)

/-- A deflected attempt tells why. -/
theorem Deflected.exists_cause {attempt : Attempt} (deflected : attempt.Deflected)
    (translator : Translator) : ∃ cause, attempt.cause? translator = some cause := by
  -- Redirects and failures of the connection name their cause; replies and other errors are not
  -- deflected.
  rcases attempt with ⟨pool, asking, steps, outcome⟩
  rcases outcome with error | (reply | ⟨moved, target⟩ | ⟨asked, target⟩ | error)
  · simp [Deflected, isRedirected] at deflected
  · simp [Deflected, isRedirected] at deflected
  · exact ⟨_, rfl⟩
  · exact ⟨_, rfl⟩
  · exact ⟨_, rfl⟩

end Attempt

/-- An error that nodes are to blame for: one of them reported it, or failed with it. -/
def Blamed (steps : Trace) (error : ClientError) : Prop :=
  error.isReported = true ∨ ∃ exchange ∈ steps, exchange.failure? = some error

/-- Longer traces blame nodes for as much. -/
theorem Blamed.mono {steps more : Trace} {error : ClientError} (blamed : Blamed steps error)
    (within : ∀ exchange ∈ steps, exchange ∈ more) : Blamed more error := by
  rcases blamed with own | ⟨exchange, member, failed⟩
  · exact .inl own
  · exact .inr ⟨exchange, within exchange member, failed⟩

namespace Redirect

/-- A normal reply is a frame that is no error, taken as it came. -/
theorem classify_reply {answer : Except ClientError Frame} {source : Endpoint} {reply : Frame}
    (normal : classify answer source = .ok (.reply reply)) :
    answer = .ok reply ∧ reply.asError = none := by
  -- An answer that never came is an error of one kind or the other, and no reply.
  rcases answer with error | frame
  · simp only [classify] at normal
    split at normal <;> simp at normal
  · cases frame with
    | error message =>
      -- Of the frames only an error reply means something else than itself.
      -- An error reply is a redirect or an error, and never a normal reply.
      simp only [classify, ofErrorReply] at normal
      repeat' split at normal
      all_goals simp at normal
    | _ =>
      simp only [classify, Except.ok.injEq, Signal.reply.injEq] at normal
      rw [← normal]
      exact ⟨rfl, rfl⟩

/-- Only slots that there are can be moved. -/
theorem lt_of_moved {answer : Except ClientError Frame} {source target : Endpoint} {slot : Nat}
    (redirected : classify answer source = .ok (.moved slot target)) : slot < slotCount := by
  -- A redirect is read only if its slot is below the number of slots.
  have named : ∀ {arguments}, target? arguments source = some (slot, target) → slot < slotCount := by
    intro arguments read
    -- What is no number, or too large, or lacks an address, is not read as a redirect.
    unfold target? at read
    repeat' split at read
    all_goals simp only [reduceCtorEq, Option.map_eq_some_iff, Prod.mk.injEq] at read
    rename_i inside
    obtain ⟨_, _, rfl, _⟩ := read
    exact inside
  -- Without an answer there is nobody who could redirect.
  rcases answer with error | frame
  · simp only [classify] at redirected
    split at redirected <;> simp at redirected
  · cases frame with
    | error message =>
      -- Of the kinds of error replies only the one that begins with `MOVED` names a slot for good.
      simp only [classify, ofErrorReply] at redirected
      split at redirected
      · split at redirected
        · rename_i read
          simp only [Except.ok.injEq, Signal.moved.injEq] at redirected
          obtain ⟨rfl, rfl⟩ := redirected
          exact named read
        · cases redirected
      · split at redirected <;> simp at redirected
      · repeat' split at redirected
        all_goals simp at redirected
    | _ => simp [classify] at redirected

/-- A frame that is no error is a normal reply. -/
theorem classify_of_normal {frame : Frame} (normal : frame.asError = none) (source : Endpoint) :
    classify (.ok frame) source = .ok (.reply frame) := by
  cases frame with
  | error message => simp [Frame.asError] at normal
  | _ => rfl

/-- What counts as a failure of the connection is one. -/
theorem classify_connectionFailure {answer : Except ClientError Frame} {source : Endpoint}
    {error : ClientError} (failed : classify answer source = .ok (.connectionFailure error)) :
    error.isConnectivity = true := by
  rcases answer with failure | frame
  -- The failure is passed on as it was, after a look at what kind it is.
  · simp only [classify] at failed
    split at failed
    · simp only [Except.ok.injEq, Signal.connectionFailure.injEq] at failed
      rwa [← failed]
    · simp at failed
  · -- A node that replied at all has not failed.
    cases frame with
    | error message =>
      simp only [classify, ofErrorReply] at failed
      repeat' split at failed
      all_goals simp at failed
    | _ => simp [classify] at failed

/-- An error is the one that an error reply reports, or the node's failure. -/
theorem classify_error {answer : Except ClientError Frame} {source : Endpoint} {error : ClientError}
    (failed : classify answer source = .error error) :
    error.isReported = true ∨ answer = .error error := by
  rcases answer with failure | frame
  · simp only [classify] at failed
    split at failed
    · simp at failed
    · rw [Except.error.injEq] at failed
      exact .inr (failed ▸ rfl)
  -- A frame that leads to an error is an error reply, and says so itself.
  · refine .inl ?_
    cases frame with
    | error message =>
      simp only [classify, ofErrorReply] at failed
      repeat' split at failed
      all_goals simp only [reduceCtorEq, Except.error.injEq] at failed
      -- Each of the three kinds is one that nodes report.
      all_goals rw [← failed]; rfl
    | _ => simp [classify] at failed

end Redirect

namespace ClientState

variable {state : ClientState} {pool : PoolRef} {ticket : Ticket} {error : ClientError}

/-- A pool lets nobody in for want of a connection only. -/
theorem enter_error (refused : (state.perform (.enter pool) ()).1 = .error error) :
    error.isConnectivity = true := by
  -- Either there is no such pool, or it decides by itself whom it lets in.
  simp only [perform, onPool] at refused
  split at refused
  · -- A pool that was never made counts as a closed one.
    simp only [missing, Except.error.injEq] at refused
    rw [← refused]
    rfl
  · rename_i found located
    -- It is closed, or it has a place or a seat in the queue, and only the first is an error.
    rcases found.enter_cases with ⟨_, same⟩ | ⟨_, _, same⟩ | ⟨_, _, same⟩
    · rw [same, Except.error.injEq] at refused
      rw [← refused]
      rfl
    · simp [same] at refused
    · simp [same] at refused

/-- A wait ends in vain for want of a connection only. -/
theorem awaitPermit_error (denied : (state.perform (.awaitPermit pool ticket) ()).1 = .error error) :
    error.isConnectivity = true := by
  simp only [perform, onPool] at denied
  -- The ticket may be unknown to the pool, the pool may have closed, or the wait was too long.
  split at denied
  · simp only [missing, Except.error.injEq] at denied
    rw [← denied]
    rfl
  · simp only [Pool.awaitPermit] at denied
    split at denied
    · simp only [Except.error.injEq] at denied
      rw [← denied]
      rfl
    · split at denied
      · simp at denied
      · simp only [Except.error.injEq] at denied
        rw [← denied]
        rfl

end ClientState

namespace Program

variable {others : ClientState → ClientState → Prop} {state last : ClientState} {steps : Trace}

/-- Who asks a pool for a connection gets one of that pool. -/
theorem lease_of_acquire {pool : PoolRef} {lease : Lease}
    (run : Amid others (acquire pool) state steps (.ok lease) last) :
    lease.endpoint = pool.endpoint := by
  -- The four steps are gone through; each way to a connection names the pool in it.
  have yields : (acquire pool).Yields fun result =>
      ∀ lease, result = .ok lease → lease.endpoint = pool.endpoint := by
    intro state choice
    cases (state.perform (.enter pool) choice).1 with
    | error error => simp [Yields]
    | ok ticket =>
      intro state choice
      cases (state.perform (.awaitPermit pool ticket) choice).1 with
      | error error => simp [Yields]
      | ok granted =>
        intro state choice
        cases (state.perform (.takeIdle pool ticket) choice).1 with
        | true => simp [Yields, Lease.endpoint]
        | false =>
          intro state choice
          cases (state.perform (.connect pool ticket) choice).1 with
          | error error => simp [Yields]
          | ok opened => simp [Yields, Lease.endpoint]
  exact run.yields yields lease rfl

/-- Who gets no connection lacks one in the pool, or could not reach the node. -/
theorem error_of_acquire {pool : PoolRef} {error : ClientError}
    (run : Amid others (acquire pool) state steps (.error error) last) :
    error.isConnectivity = true ∨ ∃ exchange ∈ steps, exchange.failure? = some error := by
  -- Each of the four steps may be the one that ends in vain.
  obtain ⟨before, _, rest, _, rfl, entering⟩ := amid_ask_iff.1 run
  cases entered : (before.perform (.enter pool) ()).1 with
  | error refusal =>
    rw [entered] at entering
    obtain ⟨_, same, _⟩ := amid_done_iff.1 entering
    rw [Except.error.inj same]
    exact .inl (ClientState.enter_error entered)
  | ok ticket =>
    rw [entered] at entering
    obtain ⟨before, _, rest, _, rfl, waiting⟩ := amid_ask_iff.1 entering
    cases permitted : (before.perform (.awaitPermit pool ticket) ()).1 with
    | error denial =>
      rw [permitted] at waiting
      obtain ⟨_, same, _⟩ := amid_done_iff.1 waiting
      rw [Except.error.inj same]
      exact .inl (ClientState.awaitPermit_error permitted)
    | ok granted =>
      rw [permitted] at waiting
      obtain ⟨before, _, rest, _, rfl, taking⟩ := amid_ask_iff.1 waiting
      cases reused : (before.perform (.takeIdle pool ticket) ()).1 with
      | true =>
        rw [reused] at taking
        -- An idle connection was there, so there is no error.
        obtain ⟨_, same, _⟩ := amid_done_iff.1 taking
        simp at same
      | false =>
        rw [reused] at taking
        obtain ⟨before, outcome, rest, _, rfl, opening⟩ := amid_ask_iff.1 taking
        -- Here only the node itself can have refused.
        cases outcome with
        | error failure =>
          obtain ⟨rfl, same, _⟩ := amid_done_iff.1 opening
          rw [Except.error.inj same]
          exact .inr ⟨⟨.connect pool ticket, .error failure⟩, by simp; rfl, rfl⟩
        | ok opened =>
          -- The node was reached, so there is no error here either.
          obtain ⟨_, same, _⟩ := amid_done_iff.1 opening
          simp at same

/-- A request is sent and then answered. -/
theorem steps_of_request {lease : Lease} {request : Request} {answer : Except ClientError Frame}
    (run : Amid others (Program.request lease request) state steps answer last) :
    steps = [⟨.send lease request, ()⟩, ⟨.answer lease request, answer⟩] := by
  -- Sending always goes through; what can fail is the answer.
  obtain ⟨before, _, rest, _, rfl, sent⟩ := amid_ask_iff.1 run
  obtain ⟨before, choice, rest, _, rfl, answered⟩ := amid_ask_iff.1 sent
  obtain ⟨rfl, rfl, _⟩ := amid_done_iff.1 answered
  rfl

/-- A quiet program leaves a quiet trace. -/
theorem Amid.quiet {α : Type} {program : Program α} {value : α}
    (run : Amid others program state steps value last) (quiet : program.Quiet) : steps.Quiet :=
  run.within quiet

end Program

namespace Dispatcher

variable {others : ClientState → ClientState → Prop} {state last : ClientState} {steps : Trace}
  {outcome : Except ClientError Signal} {frame : Frame}

/-- A command is sent and answered, and the answer has a meaning. -/
theorem exists_answer {lease : Lease}
    (run : Program.Amid others (Program.bind (Program.request lease (.command frame)) fun reply =>
      .done (Redirect.classify reply lease.endpoint)) state steps outcome last) :
    ∃ answer, Program.Amid others (Program.request lease (.command frame)) state steps answer last ∧
      steps = [⟨.send lease (.command frame), ()⟩, ⟨.answer lease (.command frame), answer⟩] ∧
      outcome = Redirect.classify answer lease.endpoint := by
  -- After the answer no step is taken, only its meaning is looked up.
  obtain ⟨first, second, answer, middle, rfl, requested, judged⟩ := Program.amid_bind_iff.1 run
  obtain ⟨rfl, rfl, rfl⟩ := Program.amid_done_iff.1 judged
  rw [List.append_nil]
  exact ⟨answer, requested, Program.steps_of_request requested, rfl⟩

/-- An error that an answer comes to is reported in it or the node's own. -/
theorem blamed_of_classify {lease : Lease} (request : Request)
    {answer : Except ClientError Frame} {error : ClientError}
    (failed : Redirect.classify answer lease.endpoint = .error error)
    (member : ⟨.answer lease request, answer⟩ ∈ steps) : Blamed steps error := by
  -- The answer says what is wrong, or there was none and the failure is the node's.
  rcases Redirect.classify_error failed with own | theirs
  · exact .inl own
  · exact .inr ⟨_, member, by rw [theirs]; rfl⟩

/-- A conversation ends before the command is sent, or with the meaning of the answer to it. -/
theorem converse_cases {lease : Lease} {asking : Bool}
    (run : Program.Amid others (converse lease frame asking) state steps outcome last) :
    (∀ error, outcome = .error error → Blamed steps error) ∧
    ((steps.commands = [] ∧ steps.replies = [] ∧ ∀ reply, outcome ≠ .ok (.reply reply)) ∨
      ∃ answer, steps.commands = [(lease, frame)] ∧ steps.replies = [(lease, answer)] ∧
        outcome = Redirect.classify answer lease.endpoint) := by
  -- Without the prefix the command is the only request.
  cases asking with
  | false =>
    obtain ⟨answer, _, rfl, rfl⟩ := exists_answer run
    exact ⟨fun error failed => blamed_of_classify (.command frame) failed (by simp),
      .inr ⟨answer, rfl, rfl, rfl⟩⟩
  | true =>
    -- The prefix comes first, and what the node says to it decides whether the command follows.
    obtain ⟨first, second, acknowledged, middle, rfl, requested, following⟩ :=
      Program.amid_bind_iff.1 run
    have asked := Program.steps_of_request requested
    subst asked
    split at following
    · -- `ASKING` was acknowledged, so the command goes out.
      obtain ⟨answer, _, rfl, rfl⟩ := exists_answer following
      exact ⟨fun error failed => blamed_of_classify (.command frame) failed (by simp),
        .inr ⟨answer, rfl, rfl, rfl⟩⟩
    · -- Whatever came instead of an acknowledgement is the outcome, and it is no reply.
      rename_i refused
      obtain ⟨rfl, rfl, _⟩ := Program.amid_done_iff.1 following
      exact ⟨fun error failed => blamed_of_classify .asking failed (by simp),
        .inl ⟨rfl, rfl, refused⟩⟩

/-- What an attempt takes for a failure of the connection is one. -/
theorem attempt_yields (pool : PoolRef) (frame : Frame) (asking : Bool) :
    (attempt pool frame asking).Yields fun outcome =>
      ∀ error, outcome = .ok (.connectionFailure error) → error.isConnectivity = true := by
  -- Without a connection the outcome is the failure to get one, if that is one of connectivity.
  refine (Program.yields_trivial _).bind fun acquired _ => ?_
  cases acquired with
  | error failure =>
    intro error failed
    split at failed
    · simp only [Except.ok.injEq, Signal.connectionFailure.injEq] at failed
      rwa [← failed]
    · simp at failed
  | ok lease =>
    -- The last answer decides, whether it is the one to `ASKING` or to the command.
    have conversed : (converse lease frame asking).Yields fun outcome =>
        ∀ error, outcome = .ok (.connectionFailure error) → error.isConnectivity = true := by
      cases asking with
      | false =>
        exact (Program.yields_trivial _).bind fun reply _ error => Redirect.classify_connectionFailure
      | true =>
        refine (Program.yields_trivial _).bind fun acknowledged _ => ?_
        split
        · exact (Program.yields_trivial _).bind fun reply _ error =>
            Redirect.classify_connectionFailure
        · exact fun error => Redirect.classify_connectionFailure
    -- Giving the connection back does not change the outcome.
    exact conversed.bind fun outcome connectivity =>
      (Program.yields_trivial (Program.release lease)).bind fun _ _ => connectivity

end Dispatcher

namespace Attempt

variable {others : ClientState → ClientState → Prop} {frame : Frame} {attempt : Attempt}

/-- An attempt that ends in a failure of the connection is deflected. -/
theorem Ran.deflected_of_failure (ran : attempt.Ran others frame) {error : ClientError}
    (failed : attempt.outcome = .ok (.connectionFailure error)) : attempt.Deflected := by
  obtain ⟨state, last, run⟩ := ran
  exact .inr ⟨error, run.yields (Dispatcher.attempt_yields _ _ _) error failed, failed⟩

/-- An attempt sends nothing that counts, or sends the command once and comes to what the answer
means; its error, if it has one, is reported by the node or the node's own. -/
theorem Ran.cases (ran : attempt.Ran others frame) :
    (∀ error, attempt.outcome = .error error → Blamed attempt.steps error) ∧
    ((attempt.steps.commands = [] ∧ attempt.steps.replies = [] ∧
        ∀ reply, attempt.outcome ≠ .ok (.reply reply)) ∨
      ∃ lease answer, lease.endpoint = attempt.pool.endpoint ∧
        attempt.steps.commands = [(lease, frame)] ∧ attempt.steps.replies = [(lease, answer)] ∧
        attempt.outcome = Redirect.classify answer attempt.pool.endpoint) := by
  obtain ⟨state, last, run⟩ := ran
  -- The attempt gets a connection, converses over it and gives it back.
  obtain ⟨acquiring, following, acquired, middle, whole, acquire, rest⟩ :=
    Program.amid_bind_iff.1 run
  have acquiring := acquire.quiet (Program.acquire_quiet attempt.pool)
  cases acquired with
  | error error =>
    -- Without a connection nothing is sent.
    obtain ⟨rfl, judged, _⟩ := Program.amid_done_iff.1 rest
    rw [List.append_nil] at whole
    rw [whole, judged]
    refine ⟨fun failure failed => ?_, .inl ⟨acquiring.commands, acquiring.replies, fun reply => ?_⟩⟩
    -- A failure to connect counts as one of the connection, so an error here is something else.
    · split at failed
      · simp at failed
      · rename_i other
        rw [Except.error.injEq] at failed
        subst failed
        rcases Program.error_of_acquire acquire with lacking | theirs
        · exact absurd lacking other
        · exact .inr theirs
    · split <;> simp
  | ok lease =>
    have endpoint := Program.lease_of_acquire acquire
    obtain ⟨conversing, releasing, outcome, halfway, rfl, conversation, ending⟩ :=
      Program.amid_bind_iff.1 rest
    obtain ⟨given, nothing, _, _, rfl, release, finished⟩ := Program.amid_bind_iff.1 ending
    obtain ⟨rfl, rfl, _⟩ := Program.amid_done_iff.1 finished
    have releasing := release.quiet (Program.release_quiet lease)
    obtain ⟨blamed, cases⟩ := Dispatcher.converse_cases conversation
    rw [whole, ← endpoint]
    -- What the nodes are blamed for happened in the conversation.
    refine ⟨fun error failed => (blamed error failed).mono fun exchange member => ?_, ?_⟩
    · simp [member]
    · -- Checking out and giving back add nothing to what the conversation shows.
      simp only [Trace.commands_append, Trace.replies_append, acquiring.commands,
        acquiring.replies, releasing.commands, releasing.replies, List.nil_append, List.append_nil]
      rcases cases with quiet | ⟨answer, sent, replied, same⟩
      · exact .inl quiet
      · exact .inr ⟨lease, answer, rfl, sent, replied, same⟩

end Attempt

end RedisCluster
