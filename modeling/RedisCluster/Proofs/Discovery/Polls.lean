import RedisCluster.Proofs.Discovery.Record
import RedisCluster.Proofs.Dispatcher.Asking

/-! Nodes that are asked one question in turn, until one of them gives an answer that is accepted. -/

namespace RedisCluster

/-- Where a node is asked: over a connection of its pool, or over one past all pools. -/
inductive Venue where
  | pool (ref : PoolRef)
  | past (node : Endpoint)
deriving Repr, DecidableEq

/-- The node that is asked there. -/
def Venue.endpoint : Venue → Endpoint
  | pool ref => ref.endpoint
  | past node => node

/-- Where the node at the other end of a connection is asked. -/
def Lease.venue : Lease → Venue
  | pooled pool _ => .pool pool
  | direct node _ => .past node

/-- What asking a node has come to in a step, if the step decided it: the answer of the node, or the
error that kept it from being asked. -/
def Exchange.poll? : Exchange → Option (Venue × Except ClientError Frame)
  -- The pool refuses, or keeps the caller waiting too long.
  | ⟨.enter pool, .error error⟩ => some (.pool pool, .error error)
  | ⟨.awaitPermit pool _, .error error⟩ => some (.pool pool, .error error)
  -- The node cannot be reached.
  | ⟨.connect pool _, .error error⟩ => some (.pool pool, .error error)
  | ⟨.dial node, .error error⟩ => some (.past node, .error error)
  -- The node was asked, and this is what it says.
  | ⟨.answer lease _, answer⟩ => some (lease.venue, answer)
  | _ => none

/-- A step in which a node may be asked, or may turn out to be out of reach. -/
def Op.isPolling : Op → Bool
  | .enter _ | .awaitPermit _ _ | .connect _ _ | .dial _ | .send _ _ | .answer _ _ => true
  | _ => false

namespace Trace

variable {front back trace : Trace} {request : Request} {venue : Venue}
  {answer : Except ClientError Frame}

/-- What asking nodes has come to, in order. -/
def polls (trace : Trace) : List (Venue × Except ClientError Frame) :=
  trace.filterMap Exchange.poll?

/-- What was sent, and where, in order. -/
def questions (trace : Trace) : List (Venue × Request) :=
  trace.requests.map fun sent => (sent.1.venue, sent.2)

@[simp] theorem polls_append (front back : Trace) : polls (front ++ back) = polls front ++ polls back :=
  List.filterMap_append

@[simp] theorem questions_append (front back : Trace) :
    questions (front ++ back) = questions front ++ questions back := by
  simp [questions, requests]

/-- No node is asked, and none fails to be asked. -/
structure Unpolled (trace : Trace) : Prop where
  polls : trace.polls = []
  questions : trace.questions = []

/-- A step that asks nobody adds nothing to what asking has come to. -/
theorem Unpolled.polls_cons {exchange : Exchange} (silent : Unpolled [exchange]) (trace : Trace) :
    Trace.polls (exchange :: trace) = trace.polls := by
  rw [← List.singleton_append, Trace.polls_append, silent.polls, List.nil_append]

/-- A step that asks nobody adds nothing to what was sent. -/
theorem Unpolled.questions_cons {exchange : Exchange} (silent : Unpolled [exchange]) (trace : Trace) :
    Trace.questions (exchange :: trace) = trace.questions := by
  rw [← List.singleton_append, Trace.questions_append, silent.questions, List.nil_append]

/-- Steps that ask nobody add nothing to what was sent. -/
theorem Unpolled.questions_append (silent : back.Unpolled) (front : Trace) :
    (front ++ back).questions = front.questions := by
  rw [Trace.questions_append, silent.questions, List.append_nil]

/-- One node is asked one question or fails to be asked, and nothing else is sent. -/
structure IsPoll (trace : Trace) (request : Request) (venue : Venue)
    (answer : Except ClientError Frame) : Prop where
  polls : trace.polls = [(venue, answer)]
  questions : trace.questions.Sublist [(venue, request)]

namespace IsPoll

/-- A poll stays one poll behind steps that ask nobody. -/
theorem prepend (poll : trace.IsPoll request venue answer) (silent : front.Unpolled) :
    (front ++ trace).IsPoll request venue answer := by
  -- What was asked in front of it is nothing.
  refine ⟨by rw [polls_append, silent.polls, poll.polls]; rfl, ?_⟩
  rw [questions_append, silent.questions]
  exact poll.questions

/-- A poll stays one poll before steps that ask nobody. -/
theorem append (poll : trace.IsPoll request venue answer) (silent : back.Unpolled) :
    (trace ++ back).IsPoll request venue answer := by
  refine ⟨by rw [polls_append, silent.polls, poll.polls]; rfl, ?_⟩
  rw [silent.questions_append]
  exact poll.questions

end IsPoll

end Trace

/-- Candidates were asked one question in turn, up to and including the first whose answer was
accepted, and nothing else was sent. -/
structure Polled {β : Type} (request : Request)
    (judge : Venue → Except ClientError Frame → Except ClientError β) (candidates : List Venue)
    (trace : Trace) (found : Option (Venue × β)) : Prop where
  /-- A candidate that cannot be reached has its turn without being sent anything. -/
  asked : trace.questions.Sublist (trace.polls.map fun poll => (poll.1, request))
  turns : ∃ failed : List (Venue × Except ClientError Frame),
    (∀ poll ∈ failed, (judge poll.1 poll.2).isOk = false) ∧
    match found with
    | none => trace.polls = failed ∧ candidates = failed.map Prod.fst
    | some (venue, value) => ∃ answer rest, judge venue answer = .ok value ∧
        trace.polls = failed ++ [(venue, answer)] ∧ candidates = failed.map Prod.fst ++ venue :: rest

namespace Polled

variable {β : Type} {request : Request}
  {judge : Venue → Except ClientError Frame → Except ClientError β} {candidates : List Venue}
  {front back trace : Trace} {found : Option (Venue × β)} {venue : Venue}
  {answer : Except ClientError Frame} {value : β} {error : ClientError}

/-- Nobody is asked where there are no candidates. -/
theorem nil (silent : trace.Unpolled) : Polled request judge [] trace none :=
  ⟨by simp [silent.questions], [], by simp, silent.polls, rfl⟩

/-- The first candidate has an answer that is accepted. -/
theorem accepted (poll : trace.IsPoll request venue answer) (good : judge venue answer = .ok value)
    (rest : List Venue) : Polled request judge (venue :: rest) trace (some (venue, value)) :=
  ⟨by simpa [poll.polls] using poll.questions, [], by simp, answer, rest, good, poll.polls, rfl⟩

/-- The first candidate has no answer that is accepted, and the others are asked after it. -/
theorem rejected (poll : front.IsPoll request venue answer) (bad : judge venue answer = .error error)
    (later : Polled request judge candidates back found) :
    Polled request judge (venue :: candidates) (front ++ back) found := by
  obtain ⟨asked, failed, fruitless, outcome⟩ := later
  -- To ask the others comes after the question to the first one.
  refine ⟨?_, (venue, answer) :: failed, ?_, ?_⟩
  · rw [Trace.questions_append, Trace.polls_append, List.map_append, poll.polls]
    exact poll.questions.append asked
  · refine List.forall_mem_cons.2 ⟨?_, fruitless⟩
    rw [bad]
    rfl
  · -- The candidate and its failure stand in front of the others.
    cases found with
    | none =>
      -- All of them failed, and so did the first one.
      obtain ⟨polls, listed⟩ := outcome
      exact ⟨by rw [Trace.polls_append, poll.polls, polls]; rfl, by rw [listed]; rfl⟩
    | some hit =>
      -- One of the others was found, behind the first one.
      obtain ⟨reply, rest, good, polls, listed⟩ := outcome
      exact ⟨reply, rest, good, by rw [Trace.polls_append, poll.polls, polls]; rfl,
        by rw [listed]; rfl⟩

/-- What was asked and what came of it is all that counts. -/
theorem congr (polled : Polled request judge candidates trace found) (polls : back.polls = trace.polls)
    (questions : back.questions = trace.questions) : Polled request judge candidates back found := by
  obtain ⟨asked, turns⟩ := polled
  rw [← polls, ← questions] at asked
  rw [← polls] at turns
  exact ⟨asked, turns⟩

/-- A step that asks nobody may come before the turns of the candidates. -/
theorem cons (polled : Polled request judge candidates trace found) {exchange : Exchange}
    (silent : Trace.Unpolled [exchange]) : Polled request judge candidates (exchange :: trace) found :=
  polled.congr (silent.polls_cons trace) (silent.questions_cons trace)

/-- Steps that ask nobody may come after the turns of the candidates. -/
theorem append (polled : Polled request judge candidates trace found) (silent : back.Unpolled) :
    Polled request judge candidates (trace ++ back) found := by
  refine polled.congr ?_ (silent.questions_append trace)
  rw [Trace.polls_append, silent.polls, List.append_nil]

/-- Whoever was asked was a candidate, and was asked in the order of the candidates. -/
theorem candidates_prefix (polled : Polled request judge candidates trace found) :
    trace.polls.map Prod.fst <+: candidates := by
  obtain ⟨_, failed, _, outcome⟩ := polled
  -- Of the candidates all had their turn, or those up to the one that was found.
  cases found with
  | none =>
    obtain ⟨polls, listed⟩ := outcome
    have everybody : trace.polls.map Prod.fst = candidates := by rw [polls, listed]
    exact everybody ▸ List.prefix_rfl
  | some hit =>
    obtain ⟨reply, rest, _, polls, listed⟩ := outcome
    exact ⟨rest, by rw [polls, listed]; simp⟩

/-- Where nobody was found, every candidate had its turn. -/
theorem candidates_of_none (polled : Polled request judge candidates trace none) :
    candidates = trace.polls.map Prod.fst := by
  obtain ⟨_, failed, _, polls, listed⟩ := polled
  rw [polls, listed]

/-- Whoever was found was asked last, and gave the answer that was accepted. -/
theorem getLast_polls (polled : Polled request judge candidates trace (some (venue, value))) :
    ∃ answer, trace.polls.getLast? = some (venue, answer) ∧ judge venue answer = .ok value := by
  obtain ⟨_, failed, _, answer, rest, good, polls, _⟩ := polled
  exact ⟨answer, by rw [polls, List.getLast?_concat], good⟩

/-- The answer that was accepted is the last one. -/
theorem judge_last (polled : Polled request judge candidates trace (some (venue, value)))
    {there : Venue} (last : trace.polls.getLast? = some (there, answer)) :
    judge there answer = .ok value := by
  obtain ⟨reply, final, good⟩ := polled.getLast_polls
  rw [last, Option.some.injEq, Prod.mk.injEq] at final
  obtain ⟨rfl, rfl⟩ := final
  exact good

/-- If no two candidates are one node, no node gets the question twice. -/
theorem nodup_questions (polled : Polled request judge candidates trace found)
    (apart : (candidates.map fun venue => venue.endpoint.nodeKey).Nodup) :
    (trace.questions.map fun question => question.1.endpoint.nodeKey).Nodup := by
  -- Every question belongs to a turn, and turns are taken in the order of the candidates.
  have turns : (trace.questions.map Prod.fst).Sublist (trace.polls.map Prod.fst) := by
    have asked := polled.asked.map Prod.fst
    rwa [List.map_map] at asked
  have listed := (turns.trans polled.candidates_prefix.sublist).map fun venue => venue.endpoint.nodeKey
  rw [List.map_map] at listed
  exact listed.nodup apart

/-- Nobody was found exactly if no answer was accepted. -/
theorem eq_none_iff (polled : Polled request judge candidates trace found) :
    found = none ↔ ∀ poll ∈ trace.polls, (judge poll.1 poll.2).isOk = false := by
  obtain ⟨_, failed, fruitless, outcome⟩ := polled
  cases found with
  | none => exact iff_of_true rfl (outcome.1 ▸ fruitless)
  | some hit =>
    obtain ⟨reply, rest, good, polls, _⟩ := outcome
    refine iff_of_false (by simp) fun fruitless => ?_
    -- The last poll is the one that was accepted.
    have last := fruitless (hit.1, reply) (by simp [polls])
    rw [good] at last
    cases last

/-- Somebody was found exactly if some answer was accepted. -/
theorem isSome_iff (polled : Polled request judge candidates trace found) :
    found.isSome = true ↔ ∃ poll ∈ trace.polls, (judge poll.1 poll.2).isOk = true := by
  -- One of two things is found, and this is the other one.
  rw [Option.isSome_iff_ne_none, Ne, polled.eq_none_iff]
  simp

end Polled

/-- The known pools are visited in some order. -/
theorem ClientState.knownPools_perm (state : ClientState) (order : List PoolRef) :
    (state.perform .knownPools order).1.Perm state.topology.knownPools := by
  simp only [perform]
  split
  · rename_i rearranged
    exact List.isPerm_iff.1 rearranged
  · -- An order that does not rearrange them is not used.
    exact .refl _

/-- Others that run beside leave the routing table alone, and open or close no pool. -/
def ClientState.Calm (state before : ClientState) : Prop :=
  state.topology.Steady before.topology

namespace Program

open ClientState (Calm)

variable {others : ClientState → ClientState → Prop} {state last : ClientState} {trace : Trace}

/-- Nobody who runs beside does nothing to the table. -/
theorem Alone.calm {α : Type} {program : Program α} {value : α}
    (run : Alone program state trace value last) : Amid Calm program state trace value last :=
  Amid.mono run fun _ _ same => same ▸ .refl _

/-- Steady steps leave the table alone, as long as those who run beside do so too. -/
theorem steady_of_calm {α : Type} {program : Program α} {value : α}
    (run : Amid Calm program state trace value last)
    (steady : program.Within fun op => op.isSteady = true) :
    state.topology.Steady last.topology := by
  induction run with
  | done value state => exact .refl _
  -- Those who run beside change nothing before the step, and the step is steady.
  | ask meanwhile choice _ ih =>
    exact Topology.Steady.trans meanwhile
      ((ClientState.steady_perform steady.1 _ choice).trans (ih (steady.2 _)))

/-- Asks a node one question over a connection of its pool, and tells its answer or the error that kept
it from being asked. -/
def inquiry (pool : PoolRef) (request : Request) : Program (Except ClientError Frame) :=
  inquire pool request (fun error => done (.error error)) done

/-- What is made of an answer may be made of it later. -/
theorem inquire_eq_bind {α : Type} (pool : PoolRef) (request : Request)
    (follow : Except ClientError Frame → Program α) :
    inquire pool request (fun error => follow (.error error)) follow =
      bind (inquiry pool request) follow := by
  rw [inquiry, bind_inquire]
  rfl

/-- An inquiry leaves the table alone. -/
theorem inquiry_steady (pool : PoolRef) (request : Request) :
    (inquiry pool request).Within fun op => op.isSteady = true := by
  have acquired : (acquire pool).Within fun op => op.isSteady = true :=
    acquire_within pool rfl (fun _ => rfl) (fun _ => rfl) fun _ => rfl
  have released : ∀ lease, (release lease).Within fun op => op.isSteady = true :=
    fun lease => release_within lease fun _ _ => rfl
  -- The five parts of an inquiry are steps of one pool.
  exact inquire_within pool acquired (fun lease => request_within lease _ rfl rfl) released
    (fun _ => trivial) fun _ => trivial

/-- A connection is checked out of the pool without any question, or the error that keeps the caller
from it is what asking the node has come to. -/
theorem polls_of_acquire {pool : PoolRef} {acquired : Except ClientError Lease}
    (run : Amid others (acquire pool) state trace acquired last) :
    (∃ error, acquired = .error error ∧ trace.polls = [(.pool pool, .error error)]) ∨
      ∃ ticket, acquired = .ok (.pooled pool ticket) ∧ trace.polls = [] := by
  -- Each of the four steps may be the last one.
  obtain ⟨before, _, rest, _, rfl, entering⟩ := amid_ask_iff.1 run
  cases entered : (before.perform (.enter pool) ()).1 with
  | error refusal =>
    rw [entered] at entering
    obtain ⟨rfl, rfl, _⟩ := amid_done_iff.1 entering
    exact .inl ⟨refusal, rfl, rfl⟩
  | ok ticket =>
    rw [entered] at entering
    obtain ⟨before, _, rest, _, rfl, waiting⟩ := amid_ask_iff.1 entering
    cases permitted : (before.perform (.awaitPermit pool ticket) ()).1 with
    | error denial =>
      rw [permitted] at waiting
      obtain ⟨rfl, rfl, _⟩ := amid_done_iff.1 waiting
      exact .inl ⟨denial, rfl, rfl⟩
    | ok granted =>
      rw [permitted] at waiting
      obtain ⟨before, _, rest, _, rfl, taking⟩ := amid_ask_iff.1 waiting
      cases reused : (before.perform (.takeIdle pool ticket) ()).1 with
      | true =>
        rw [reused] at taking
        obtain ⟨rfl, rfl, _⟩ := amid_done_iff.1 taking
        exact .inr ⟨ticket, rfl, rfl⟩
      | false =>
        rw [reused] at taking
        obtain ⟨before, outcome, rest, _, rfl, opening⟩ := amid_ask_iff.1 taking
        cases outcome with
        | error failure =>
          obtain ⟨rfl, rfl, _⟩ := amid_done_iff.1 opening
          exact .inl ⟨failure, rfl, rfl⟩
        | ok opened =>
          obtain ⟨rfl, rfl, _⟩ := amid_done_iff.1 opening
          exact .inr ⟨ticket, rfl, rfl⟩

/-- Where no node is asked anything, no question is sent. -/
theorem questions_of_idle {α : Type} {program : Program α} {value : α}
    (run : Amid others program state trace value last)
    (idle : program.Within fun op => op.isTraffic = false) : trace.questions = [] := by
  rw [Trace.questions, run.requests_of_idle idle, List.map_nil]

/-- A request is one poll at the other end of its connection. -/
theorem isPoll_of_request {lease : Lease} {request : Request} {answer : Except ClientError Frame}
    (run : Amid others (Program.request lease request) state trace answer last) :
    trace.IsPoll request lease.venue answer := by
  rw [steps_of_request run]
  exact ⟨rfl, List.Sublist.refl _⟩

/-- Where no step asks anybody, nobody is asked. -/
theorem unpolled_of_within {α : Type} {program : Program α} {value : α}
    (run : Amid others program state trace value last)
    (silent : program.Within fun op => op.isPolling = false) : trace.Unpolled := by
  -- Neither questions nor failures come from a step that polls nobody.
  have each := run.within silent
  have requests : trace.requests = [] := by
    refine List.filterMap_eq_nil_iff.2 fun exchange member => ?_
    have silent := each exchange member
    rcases exchange with ⟨op, answer⟩
    cases op <;> first | rfl | simp [Op.isPolling] at silent
  refine ⟨List.filterMap_eq_nil_iff.2 fun exchange member => ?_, by rw [Trace.questions, requests]; rfl⟩
  have silent := each exchange member
  rcases exchange with ⟨op, answer⟩
  cases op <;> first | rfl | simp [Op.isPolling] at silent

/-- An inquiry is one poll of the node. -/
theorem isPoll_of_inquiry {pool : PoolRef} {request : Request} {answer : Except ClientError Frame}
    (run : Amid others (inquiry pool request) state trace answer last) :
    trace.IsPoll request (.pool pool) answer := by
  obtain ⟨acquiring, rest, acquired, middle, rfl, acquire, after⟩ := amid_bind_iff.1 run
  have silent := questions_of_idle acquire (acquire_idle pool)
  rcases polls_of_acquire acquire with ⟨error, rfl, polls⟩ | ⟨ticket, rfl, polls⟩
  · -- The node is not asked at all.
    obtain ⟨rfl, rfl, rfl⟩ := amid_done_iff.1 after
    rw [List.append_nil]
    exact ⟨polls, by simp [silent]⟩
  · obtain ⟨asking, rest, reply, next, rfl, requested, answered⟩ := amid_bind_iff.1 after
    obtain ⟨releasing, rest, _, final, rfl, released, ended⟩ := amid_bind_iff.1 answered
    -- The connection is given back without asking anybody.
    obtain ⟨rfl, rfl, rfl⟩ := amid_done_iff.1 ended
    have given := unpolled_of_within released (release_within _ fun _ _ => rfl)
    have poll := (isPoll_of_request requested).append given
    rw [List.append_nil]
    exact poll.prepend ⟨polls, silent⟩

/-- A node is asked over a connection of its pool only while the pool is open. -/
theorem open_of_inquiry {pool : PoolRef} {request : Request} {answer : Except ClientError Frame}
    (run : Amid Calm (inquiry pool request) state trace answer last) (sent : trace.questions ≠ []) :
    ∃ found, state.topology.pool? pool.id = some found ∧ found.closed = false := by
  obtain ⟨before, _, rest, calm, rfl, entering⟩ := amid_ask_iff.1 run
  cases entered : (before.perform (.enter pool) ()).1 with
  | error refusal =>
    rw [entered] at entering
    -- Who is refused at the door has sent nothing.
    obtain ⟨rfl, _, _⟩ := amid_done_iff.1 entering
    exact absurd rfl sent
  | ok ticket =>
    -- Who has been let in has found the pool open.
    simp only [ClientState.perform, ClientState.onPool] at entered
    split at entered
    · simp [ClientState.missing] at entered
    · rename_i current present
      -- The pool was as open before the others had their way.
      obtain ⟨found, there, face⟩ := calm.exists_face present
      simp only [Pool.face, Prod.mk.injEq] at face
      refine ⟨found, there, face.2.2 ▸ ?_⟩
      rcases current.enter_cases with ⟨_, refused⟩ | ⟨accepting, _⟩ | ⟨accepting, _⟩
      · simp [refused] at entered
      · exact accepting
      · exact accepting

end Program

end RedisCluster
