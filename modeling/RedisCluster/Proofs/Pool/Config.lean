import RedisCluster.Proofs.Pool.Usage
import RedisCluster.Proofs.Program.History

/-! The configurations of the pools: no step changes one, and every pool that is made is under that of
the table. -/

namespace RedisCluster

/-- A pool that is closed keeps its configuration. -/
@[simp] theorem Pool.close_config (pool : Pool) : pool.close.config = pool.config := by
  cases shut : pool.closed <;> simp [close, shut]

namespace Topology

/-- All pools, those that are still to be made included, are under configurations of this kind. -/
structure Throughout (topology : Topology) (holds : PoolConfig → Prop) : Prop where
  fresh : holds topology.config
  made : ∀ id pool, topology.pool? id = some pool → holds pool.config

namespace Throughout

variable {before after topology : Topology} {holds : PoolConfig → Prop}

/-- Pools whose configurations were there before are under no new ones. -/
theorem of_config (all : before.Throughout holds) (config : after.config = before.config)
    (old : ∀ id pool, after.pool? id = some pool →
      ∃ known, before.pool? id = some known ∧ pool.config = known.config) :
    after.Throughout holds := by
  refine ⟨config ▸ all.fresh, fun id pool found => ?_⟩
  -- The old pool is under a configuration of the kind, and the new one has the same.
  obtain ⟨known, there, same⟩ := old id pool found
  exact same ▸ all.made id known there

/-- Steps inside pools change no configuration. -/
theorem steady (all : before.Throughout holds) (same : before.Steady after) :
    after.Throughout holds := by
  -- The face of a pool, which steps inside of it leave alone, has its configuration in it.
  refine all.of_config same.config fun id pool found => ?_
  obtain ⟨known, there, face⟩ := same.exists_face found
  simp only [Pool.face, Prod.mk.injEq] at face
  exact ⟨known, there, face.2.1⟩

/-- Pools that are added are under the configuration of the table. -/
theorem enlarged (all : before.Throughout holds) (grown : Enlarged before after) :
    after.Throughout holds := by
  refine ⟨grown.config ▸ all.fresh, fun id pool found => ?_⟩
  cases old : before.pool? id with
  -- A pool of before is the same pool now.
  | some known =>
    have same := grown.kept id known old
    rw [found, Option.some.injEq] at same
    exact same ▸ all.made id known old
  -- A new one was made by the table.
  | none =>
    obtain ⟨endpoint, rfl⟩ := grown.fresh id pool old found
    exact all.fresh

/-- Pools that are closed keep their configurations. -/
theorem reset (all : topology.Throughout holds) : topology.reset.Throughout holds := by
  -- Each pool is the old one, closed or as it was.
  refine all.of_config rfl fun id pool found => ?_
  rw [pool?_reset, Option.map_eq_some_iff] at found
  obtain ⟨known, there, rfl⟩ := found
  refine ⟨known, there, ?_⟩
  split
  · exact known.close_config
  · rfl

/-- No step gives a pool another configuration. -/
theorem perform {state : ClientState} (all : state.topology.Throughout holds) (op : Op)
    (choice : op.Choice) : (state.perform op choice).2.topology.Throughout holds := by
  -- Steady steps and growth are known cases. What is left are the three ways to close something.
  cases op, choice using Op.steady_cases with
  | steady op choice steady => exact all.steady (ClientState.steady_perform steady state choice)
  | register node => exact all.enlarged (.register _ _)
  | assign slots node => exact all.enlarged (.assign _ _ _)
  | rebuild ranges => exact all.enlarged (.rebuild _ _)
  | reset => exact all.reset
  | close =>
    simp only [ClientState.perform, ClientState.withTopology, Topology.close]
    -- A client that was closed already does nothing, and else it starts over.
    split
    · exact all
    · exact ⟨all.reset.fresh, all.reset.made⟩
  | closePool ref =>
    refine all.of_config rfl fun id pool found => ?_
    simp only [ClientState.perform, ClientState.changePool, pool?_updatePool] at found
    -- The pool that is closed is the one that was named, and no other is touched.
    split at found
    · obtain ⟨known, there, rfl⟩ := Option.map_eq_some_iff.1 found
      exact ⟨known, there, known.close_config⟩
    · exact ⟨pool, found, rfl⟩

/-- A task that gives back what it holds changes no configuration. -/
theorem giveBack {state : ClientState} (all : state.topology.Throughout holds)
    (holdings : Holdings) : (holdings.giveBack state).topology.Throughout holds :=
  -- What a task holds is given back by steps of its own, each of which changes no configuration.
  @Holdings.giveBack_keeps (fun state => state.topology.Throughout holds)
    (fun _ pool ticket all => all.perform (.leave pool ticket) ())
    (fun _ all => all.perform .endRediscovery ()) holdings state all

variable {α : Type}

/-- The turn of a task changes no configuration. -/
theorem turn {state last : ClientState} (all : state.topology.Throughout holds)
    {before after : Task α} {deed : Option Exchange}
    (taken : Task.Turn state before deed after last) : last.topology.Throughout holds := by
  cases taken with
  | took choice => exact all.perform _ choice
  | ended => exact all
  | gaveUp => exact all.giveBack _

/-- Whatever the tasks of a client do, no pool gets another configuration. -/
theorem run {system : System α} (all : system.state.topology.Throughout holds)
    (moves : List (Move α)) : (system.run moves).state.topology.Throughout holds := by
  refine System.run_induction (fun system => system.state.topology.Throughout holds) all
    (fun system next all => ?_) moves
  -- A move starts a task, which makes no pool, or is the turn of one, or does nothing.
  rcases system.move_cases next with
    ⟨_, _, _, moved⟩ | ⟨_, _, _, _, _, _, taken, _, moved⟩ | ⟨_, moved⟩ <;> rw [moved]
  · exact all
  · exact all.turn taken
  · exact all

end Throughout

end Topology

end RedisCluster
