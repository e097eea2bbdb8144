import Mathlib.Tactic.Choose
import RedisCluster.Program.Trace
import RedisCluster.Proofs.Topology.Consistency

/-! Programs that keep to one pool: what they come to depends on that pool alone, and they leave all other
pools as they are. -/

namespace RedisCluster

/-- The number of the pool in which a step takes place. -/
def Op.site? : Op → Option Nat
  | .enter pool | .awaitPermit pool _ | .takeIdle pool _ | .connect pool _ | .leave pool _
  | .closePool pool | .send (.pooled pool _) _ | .answer (.pooled pool _) _ => some pool.id
  | _ => none

/-- Surroundings in which the known pools are visited in a given order. -/
def Op.visiting (order : List PoolRef) (surroundings : (op : Op) → op.Choice) : (op : Op) → op.Choice
  | .knownPools => order
  | op => surroundings op

/-- In which order pools are visited makes no difference inside a pool. -/
theorem Op.visiting_of_site {op : Op} {id : Nat} (site : op.site? = some id) (order : List PoolRef)
    (surroundings : (op : Op) → op.Choice) : op.visiting order surroundings = surroundings op := by
  -- The list of known pools is the one step that the order decides, and it has no site.
  cases op with
  | knownPools => cases site
  | _ => rfl

/-- What happens in one pool is answered from that pool alone, and leaves all other pools as they are. -/
structure Topology.Local {α : Type} (id : Nat) (effect : Option Pool → α × Option Pool)
    (before : Topology) (answer : α) (after : Topology) : Prop where
  answer : answer = (effect (before.pool? id)).1
  pool : after.pool? id = (effect (before.pool? id)).2
  others : ∀ other, other ≠ id → after.pool? other = before.pool? other

namespace ClientState

variable {state : ClientState} {α : Type}

/-- A step that one pool answers is local to it. -/
theorem local_onPool (state : ClientState) (ref : PoolRef) (missing : α) (step : Pool → α × Pool) :
    state.topology.Local ref.id
      (fun
        | none => (missing, none)
        | some pool => ((step pool).1, some (step pool).2))
      (state.onPool ref missing step).1 (state.onPool ref missing step).2.topology := by
  -- A pool that is missing is answered for, and stays missing; one that is there is replaced.
  unfold onPool
  cases found : state.topology.pool? ref.id with
  | none => exact ⟨by rw [found], by rw [found], fun _ _ => rfl⟩
  | some pool =>
    refine ⟨by rw [found], ?_, fun other apart => ?_⟩
    · rw [Topology.pool?_updatePool, if_pos rfl, found]
      rfl
    · rw [Topology.pool?_updatePool, if_neg (Ne.symm apart)]

/-- A change of one pool is local to it. -/
theorem local_changePool (state : ClientState) (ref : PoolRef) (answer : α) (change : Pool → Pool) :
    state.topology.Local ref.id (fun found => (answer, found.map change)) answer
      (state.changePool ref change).topology where
  answer := rfl
  pool := by rw [changePool, Topology.pool?_updatePool, if_pos rfl]
  others other apart := by rw [changePool, Topology.pool?_updatePool, if_neg (Ne.symm apart)]

/-- A step that takes place in a pool is local to it. -/
theorem local_perform {op : Op} {id : Nat} (site : op.site? = some id) (choice : op.Choice) :
    ∃ effect : Option Pool → op.Answer × Option Pool, ∀ state : ClientState,
      state.topology.Local id effect (state.perform op choice).1 (state.perform op choice).2.topology := by
  -- Each step with a site acts on the pool of that number, and those without have been excluded.
  cases op with
  | enter ref =>
    obtain rfl := Option.some.inj site
    exact ⟨_, fun state => local_onPool state ref _ _⟩
  | awaitPermit ref ticket =>
    obtain rfl := Option.some.inj site
    exact ⟨_, fun state => local_onPool state ref _ _⟩
  | takeIdle ref ticket =>
    obtain rfl := Option.some.inj site
    exact ⟨_, fun state => local_onPool state ref _ _⟩
  | connect ref ticket =>
    obtain rfl := Option.some.inj site
    exact ⟨_, fun state => local_changePool state ref _ _⟩
  | leave ref ticket =>
    obtain rfl := Option.some.inj site
    exact ⟨_, fun state => local_changePool state ref _ _⟩
  | closePool ref =>
    obtain rfl := Option.some.inj site
    exact ⟨_, fun state => local_changePool state ref _ _⟩
  | send lease request =>
    cases lease with
    | pooled ref ticket =>
      obtain rfl := Option.some.inj site
      exact ⟨_, fun state => local_changePool state ref _ _⟩
    | direct node number => cases site
  | answer lease request =>
    cases lease with
    | pooled ref ticket =>
      obtain rfl := Option.some.inj site
      exact ⟨_, fun state => local_changePool state ref _ _⟩
    | direct node number => cases site
  | _ => cases site

end ClientState

namespace Program

variable {α β : Type} {surroundings : (op : Op) → op.Choice} {state : ClientState}

/-- Steps that were written down before stay where they are. -/
theorem run_record (surroundings : (op : Op) → op.Choice) (program : Program α) (state : ClientState)
    (past : Trace) :
    run (record surroundings) program (state, past) =
      ((play surroundings program state).1, (play surroundings program state).2.1,
        past ++ (play surroundings program state).2.2) := by
  induction program generalizing state past with
  | done value => simp [play, run]
  | ask op next ih =>
    -- The step is written down behind the past, and the others behind both.
    have whole := ih (state.perform op (surroundings op)).1 (state.perform op (surroundings op)).2
    simp only [play, run, record]
    rw [whole, whole ([] ++ _), List.nil_append, List.append_assoc]

/-- A program that asks for a step goes on from what the step leaves behind. -/
theorem play_ask (op : Op) (next : op.Answer → Program α) :
    play surroundings (ask op next) state =
      let step := state.perform op (surroundings op)
      let rest := play surroundings (next step.1) step.2
      (rest.1, rest.2.1, ⟨op, step.1⟩ :: rest.2.2) :=
  run_record surroundings (next _) _ [_]

/-- Programs that run in a row run one after the other. -/
theorem play_bind (program : Program α) (follow : α → Program β) :
    play surroundings (bind program follow) state =
      let first := play surroundings program state
      let second := play surroundings (follow first.1) first.2.1
      (second.1, second.2.1, first.2.2 ++ second.2.2) := by
  rw [play, run_bind]
  exact run_record surroundings (follow _) _ _

/-- Surroundings that decide alike about the steps of a program make the same of it. -/
theorem play_congr {one other : (op : Op) → op.Choice} {program : Program α}
    (alike : program.Within fun op => one op = other op) :
    play one program state = play other program state := by
  induction program generalizing state with
  | done value => rfl
  | ask op next ih =>
    -- Both decide alike about the first step, and about all that follow it.
    rw [play_ask, play_ask, alike.1]
    simp only [ih _ (alike.2 _)]

/-- A program that keeps to one pool is local to it, from whatever state it starts. -/
theorem local_play {id : Nat} {program : Program α}
    (within : program.Within fun op => op.site? = some id) (surroundings : (op : Op) → op.Choice) :
    ∃ effect : Option Pool → α × Option Pool, ∀ state : ClientState,
      state.topology.Local id effect (play surroundings program state).1
        (play surroundings program state).2.1.topology := by
  -- Over the steps: the effect of the first one decides with which effect the program goes on.
  induction program with
  | done value => exact ⟨fun pool => (value, pool), fun state => ⟨rfl, rfl, fun _ _ => rfl⟩⟩
  | ask op next ih =>
    obtain ⟨first, steps⟩ := ClientState.local_perform within.1 (surroundings op)
    choose rest ends using fun answer => ih answer (within.2 answer)
    refine ⟨fun pool => rest (first pool).1 (first pool).2, fun state => ?_⟩
    have step := steps state
    have last := ends (state.perform op (surroundings op)).1 (state.perform op (surroundings op)).2
    rw [play_ask]
    -- The answer of the first step is the one that its effect gives, as is the pool behind it.
    refine ⟨?_, ?_, fun other apart => (last.others other apart).trans (step.others other apart)⟩
    · rw [← step.answer, ← step.pool]
      exact last.answer
    · rw [← step.answer, ← step.pool]
      exact last.pool

end Program

end RedisCluster
