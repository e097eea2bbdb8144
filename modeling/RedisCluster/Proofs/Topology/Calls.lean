import RedisCluster.Proofs.Endpoint.NodeKey
import RedisCluster.Proofs.Topology.Consistency

/-! Calls in a row that change the routing table, from the empty table on. -/

namespace RedisCluster.Topology

open Program

/-- A call that may change the routing table. -/
inductive Call where
  | getOrCreate (node : Endpoint)
  | assign (slots : List Nat) (node : Endpoint)
  | rebuild (ranges : List SlotRange)
  | reset
  | close

namespace Call

/-- The program of a call, whose value is the pool that it hands out, if it hands out any. -/
def program : Call → Program (Except ClientError (Option PoolRef))
  | getOrCreate node => do
    let answer ← Program.getOrCreate node
    return answer.map some
  | assign slots node => do
    let answer ← Program.assign slots node
    return answer.map some
  | rebuild ranges => do
    let answer ← Program.rebuild ranges
    return answer.map fun _ => none
  | reset => do
    Program.reset
    return .ok none
  | close => do
    let _ ← Program.close
    return .ok none

/-- The ranges of a call end below the number of slots. -/
def Bounded : Call → Prop
  | rebuild ranges => ∀ range ∈ ranges, range.last < slotCount
  | _ => True

/-- What a call answers, and the table that it leaves behind. -/
def outcome (topology : Topology) : Call → Except ClientError (Option PoolRef) × Topology
  | getOrCreate node => ((topology.register node).1.map some, (topology.register node).2)
  | assign slots node => ((topology.assign slots node).1.map some, (topology.assign slots node).2)
  | rebuild ranges =>
    ((topology.rebuild ranges).1.map fun _ => none, (topology.rebuild ranges).2)
  | reset => (.ok none, topology.reset)
  | close => (.ok none, topology.close.2)

end Call

/-- Looking a node up before it is registered makes no difference to a consistent table. -/
theorem alone_getOrCreate {state last : ClientState} (consistent : state.topology.Consistent)
    {node : Endpoint} {trace : Trace} {answer : Except ClientError PoolRef}
    (run : Alone (Program.getOrCreate node) state trace answer last) :
    answer = (state.topology.register node).1 ∧
      last = { state with topology := (state.topology.register node).2 } := by
  -- The lookup is the first step, and decides whether there is a second.
  obtain ⟨_, rest, -, after⟩ := alone_ask_iff.1 run
  simp only [ClientState.perform] at after
  cases known : state.topology.lookup node with
  | some pool =>
    -- A closed table knows no nodes, so this one is open and registering finds the same pool.
    have accepting := consistent.open_of_lookup known
    rw [known] at after
    obtain ⟨-, rfl, rfl⟩ := amid_done_iff.1 after
    simp [register, accepting, known]
  | none =>
    -- The node was missing, and nobody else could register it in between.
    rw [known] at after
    obtain ⟨_, _, -, ended⟩ := alone_ask_iff.1 after
    obtain ⟨-, rfl, rfl⟩ := amid_done_iff.1 ended
    exact ⟨rfl, rfl⟩

namespace Call

/-- A call that runs alone has the outcome that the table at its start determines. -/
theorem outcome_of_alone {call : Call} {state last : ClientState}
    (consistent : state.topology.Consistent) {trace : Trace}
    {answer : Except ClientError (Option PoolRef)}
    (run : Alone call.program state trace answer last) :
    answer = (call.outcome state.topology).1 ∧
      last = { state with topology := (call.outcome state.topology).2 } := by
  cases call with
  -- Only this call takes two steps, and it is the one above.
  | getOrCreate node =>
    obtain ⟨_, _, handed, _, -, got, ended⟩ := amid_bind_iff.1 run
    obtain ⟨rfl, rfl⟩ := alone_getOrCreate consistent got
    obtain ⟨-, rfl, rfl⟩ := amid_done_iff.1 ended
    exact ⟨rfl, rfl⟩
  | assign slots node =>
    obtain ⟨_, _, -, ended⟩ := alone_ask_iff.1 run
    obtain ⟨-, rfl, rfl⟩ := amid_done_iff.1 ended
    exact ⟨rfl, rfl⟩
  | rebuild ranges =>
    obtain ⟨_, _, -, ended⟩ := alone_ask_iff.1 run
    obtain ⟨-, rfl, rfl⟩ := amid_done_iff.1 ended
    exact ⟨rfl, rfl⟩
  | reset =>
    obtain ⟨_, _, -, ended⟩ := alone_ask_iff.1 run
    obtain ⟨-, rfl, rfl⟩ := amid_done_iff.1 ended
    exact ⟨rfl, rfl⟩
  | close =>
    obtain ⟨_, _, -, ended⟩ := alone_ask_iff.1 run
    obtain ⟨-, rfl, rfl⟩ := amid_done_iff.1 ended
    exact ⟨rfl, rfl⟩

/-- Every call keeps a table consistent. -/
theorem outcome_consistent (call : Call) {topology : Topology}
    (consistent : topology.Consistent) : (call.outcome topology).2.Consistent := by
  cases call with
  -- The calls are answered by the table, for which this is known.
  | getOrCreate node => exact consistent.register node
  | assign slots node => exact consistent.assign slots node
  | rebuild ranges => exact consistent.rebuild ranges
  | reset => exact consistent.reset
  | close => exact consistent.close

/-- No call takes a pool away that was made before. -/
theorem outcome_made (call : Call) {topology : Topology} {pool : PoolRef}
    (made : topology.Made pool) : (call.outcome topology).2.Made pool := by
  cases call with
  | getOrCreate node => exact made.register node
  | assign slots node => exact made.assign slots node
  | rebuild ranges => exact made.rebuild ranges
  | reset => exact made.reset
  | close => exact made.close

/-- Every pool that a call hands out was made. -/
theorem made_of_outcome (call : Call) {topology : Topology} (consistent : topology.Consistent)
    {pool : PoolRef} (handed : (call.outcome topology).1 = .ok (some pool)) :
    (call.outcome topology).2.Made pool := by
  -- Only the two calls that register a node hand out a pool.
  cases call with
  | getOrCreate node =>
    cases registered : topology.register node with
    | mk answer grown =>
      cases answer with
      -- Nobody was registered, so no pool was handed out.
      | error error => simp [outcome, registered, Except.map] at handed
      | ok found =>
        simp only [outcome, registered, Except.map, Except.ok.injEq, Option.some.injEq] at handed ⊢
        subst handed
        exact consistent.made_of_register registered
  | assign slots node =>
    rcases assign_cases topology slots node with ⟨_, same⟩ | ⟨found, grown, registered, same⟩
    · simp [outcome, same, Except.map] at handed
    · simp only [outcome, same, Except.map, Except.ok.injEq, Option.some.injEq] at handed ⊢
      subst handed
      exact (consistent.made_of_register registered).point slots found
  -- The remaining calls hand out no pool.
  | rebuild ranges =>
    cases answered : (topology.rebuild ranges).1 <;> simp [outcome, answered, Except.map] at handed
  | reset => simp [outcome] at handed
  | close => simp [outcome] at handed

/-- A call that is refused because the table is closed changes nothing. -/
theorem outcome_of_refused (call : Call) {topology : Topology}
    (refused : (call.outcome topology).1 = .error .clientClosed) :
    (call.outcome topology).2 = topology := by
  cases call with
  | getOrCreate node =>
    cases registered : topology.register node with
    | mk answer grown =>
      cases answer with
      -- A refused registration has left the table as it was.
      | error error => exact (by simpa [outcome, registered] using (register_error registered).2.2)
      | ok found => simp [outcome, registered, Except.map] at refused
  | assign slots node =>
    rcases assign_cases topology slots node with ⟨_, same⟩ | ⟨found, grown, registered, same⟩
    · simp [outcome, same]
    · simp [outcome, same, Except.map] at refused
  | rebuild ranges =>
    -- The flag is checked before the old owners are taken away.
    cases shut : topology.closed with
    | true => simp [outcome, Topology.rebuild, shut]
    | false => simp [outcome, Topology.rebuild, shut, Except.map] at refused
  | reset => simp [outcome] at refused
  | close => simp [outcome] at refused

end Call

/-- The pools that some calls in a row have handed out since the start, and the state that they
lead to. -/
inductive Reached (config : PoolConfig) : List PoolRef → ClientState → Prop where
  | start : Reached config [] (.initial config)
  | call {handed : List PoolRef} {state last : ClientState} {trace : Trace}
      {answer : Except ClientError (Option PoolRef)} (before : Reached config handed state)
      (call : Call) (bounded : call.Bounded)
      (run : Alone call.program state trace answer last) :
      Reached config (handed ++ (answer.toOption.bind id).toList) last

/-- Whatever calls come in a row, the table stays consistent and no pool that was handed out is
lost. -/
theorem Reached.consistent {config : PoolConfig} {handed : List PoolRef} {state : ClientState}
    (reached : Reached config handed state) :
    state.topology.Consistent ∧ ∀ pool ∈ handed, state.topology.Made pool := by
  induction reached with
  | start => exact ⟨consistent_new config, by simp⟩
  | @call handed state last trace answer before call bounded run ih =>
    obtain ⟨consistent, made⟩ := ih
    obtain ⟨answered, rfl⟩ := call.outcome_of_alone consistent run
    refine ⟨call.outcome_consistent consistent, ?_⟩
    intro pool member
    rcases List.mem_append.1 member with old | new
    -- A pool of before is not lost by one more call.
    · exact call.outcome_made (made pool old)
    · -- The call itself handed this pool out.
      rcases answer with _ | _ | found <;> simp [Except.toOption] at new
      subst new
      exact call.made_of_outcome consistent answered.symm

/--
After any calls in a row, the table, its nodes and all pools that were ever made agree.

A refused call changes nothing at all, neither the table nor any pool.
-/
theorem reached_agrees {config : PoolConfig} {handed : List PoolRef} {state : ClientState}
    (reached : Reached config handed state) :
    state.topology.slots.toArray.size = 16384 ∧
    (∀ slot pool, state.topology.owner slot = some pool →
      state.topology.node? pool.endpoint.nodeKey = some pool) ∧
    ((∀ entry ∈ state.topology.nodes, entry.1 = entry.2.endpoint.nodeKey) ∧
      (state.topology.nodes.map Prod.fst).Nodup ∧
      ∀ a ∈ state.topology.nodes, ∀ b ∈ state.topology.nodes,
        a.2.endpoint.sameNode b.2.endpoint = true → a = b) ∧
    (state.topology.closed = true →
      state.topology.nodes = [] ∧ ∀ slot, state.topology.owner slot = none) ∧
    ((∀ pool ∈ state.topology.knownPools, ∃ found, state.topology.pool? pool.id = some found ∧
        found.endpoint = pool.endpoint ∧ found.closed = false) ∧
      (∀ pool ∈ handed, ∃ found, state.topology.pool? pool.id = some found ∧
        found.endpoint = pool.endpoint) ∧
      ∀ id found, state.topology.pool? id = some found →
        (∃ pool ∈ state.topology.knownPools, pool.id = id) ∨ found.closed = true) ∧
    ∀ (call : Call) (trace : Trace) (last : ClientState),
      Alone call.program state trace (.error .clientClosed) last → last = state := by
  obtain ⟨consistent, made⟩ := reached.consistent
  refine ⟨Vector.size_toArray _, consistent.owned, ⟨consistent.keyed, consistent.distinct, ?_⟩,
    ?_, ⟨?_, made, ?_⟩, ?_⟩
  · -- Two spellings of a node have one key, and one key has one entry.
    intro a memberA b memberB same
    have key : a.1 = b.1 := by
      rw [consistent.keyed a memberA, consistent.keyed b memberB]
      exact Endpoint.sameNode_iff.1 same
    have foundA := node?_of_mem consistent.distinct memberA
    have foundB := node?_of_mem consistent.distinct memberB
    rw [key, foundB] at foundA
    exact Prod.ext key (Option.some.inj foundA).symm
  · intro shut
    have empty := consistent.emptied shut
    refine ⟨empty, fun slot => ?_⟩
    cases owns : state.topology.owner slot with
    | none => rfl
    | some pool =>
      -- The owner of a slot would have to be registered.
      have registered := consistent.owned slot pool owns
      simp [node?, empty] at registered
  · intro pool member
    -- A known pool is one of an entry, which is open and made for its node.
    obtain ⟨entry, present, rfl⟩ := List.mem_map.1 member
    exact consistent.live entry present
  · intro id found present
    rcases consistent.retired id found present with ⟨entry, member, same⟩ | shut
    -- The pool is that of an entry, or was closed when it was taken out.
    · exact .inl ⟨entry.2, List.mem_map_of_mem member, same⟩
    · exact .inr shut
  · intro call trace last run
    -- The error stands for a refusal, and a refused call changes nothing.
    obtain ⟨refused, rfl⟩ := call.outcome_of_alone consistent run
    rw [call.outcome_of_refused refused.symm]

/-- A pool that was handed out for a slot is closed and forgotten once the table is closed. -/
theorem reached_agrees_after_close :
    ∃ state, Reached {} [⟨0, ⟨"127.0.0.1", 7000⟩⟩] state ∧ state.topology.closed = true ∧
      state.topology.nodes = [] ∧ state.topology.owner 1 = none ∧
      ∃ found, state.topology.pool? 0 = some found ∧ found.closed = true := by
  have assigned : Reached {} [⟨0, ⟨"127.0.0.1", 7000⟩⟩]
      ((ClientState.initial {}).perform (.assign [1] ⟨"127.0.0.1", 7000⟩) ()).2 :=
    -- Each call is a run of its own, of one step.
    .call .start (.assign [1] ⟨"127.0.0.1", 7000⟩) trivial (.ask rfl () (.done _ _))
  have closed : Reached {} [⟨0, ⟨"127.0.0.1", 7000⟩⟩]
      (((ClientState.initial {}).perform (.assign [1] ⟨"127.0.0.1", 7000⟩) ()).2.perform
        .close ()).2 :=
    .call assigned .close trivial (.ask rfl () (.done _ _))
  obtain ⟨-, -, -, emptied, ⟨-, handed, retired⟩, -⟩ := reached_agrees closed
  obtain ⟨empty, unowned⟩ := emptied rfl
  obtain ⟨found, present, -⟩ := handed _ (List.mem_singleton_self _)
  refine ⟨_, closed, rfl, empty, unowned 1, found, present, ?_⟩
  -- Nothing is registered any more, so the pool can only be a closed one.
  rcases retired 0 found present with ⟨pool, member, -⟩ | shut
  · simp [knownPools, empty] at member
  · exact shut

end RedisCluster.Topology
