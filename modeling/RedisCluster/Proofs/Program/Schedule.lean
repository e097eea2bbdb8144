import RedisCluster.Interleaving
import RedisCluster.Program.Trace

/-! Tasks that take turns for ever: what each of them has done at any moment, and that it comes to its
end if its turns do not. -/

namespace RedisCluster

/-- The task that takes each step, and what the surroundings decide about it. -/
abbrev Schedule := Nat → Nat × ((op : Op) → op.Choice)

namespace System

variable {α : Type} {system : System α} {schedule : Schedule} {index : Nat}

/-- The system after some turns. -/
def after (system : System α) (schedule : Schedule) : Nat → System α
  | 0 => system
  | count + 1 =>
    (system.after schedule count).move (.step (schedule count).1 (schedule count).2)

/-- The step that a task takes if it is its turn. -/
def turn? (system : System α) (index : Nat) (surroundings : (op : Op) → op.Choice) :
    Option Exchange :=
  match system.tasks[index]? with
  | some (.running (.ask op _) _) => some ⟨op, (system.state.perform op (surroundings op)).1⟩
  | _ => none

/-- What a task has done after some turns. -/
def steps (system : System α) (schedule : Schedule) (index : Nat) : Nat → Trace
  | 0 => []
  | count + 1 =>
    system.steps schedule index count ++
      if (schedule count).1 = index then
        ((system.after schedule count).turn? index (schedule count).2).toList
      else []

/-- A turn is a step of a program, the end of one, or nothing. -/
theorem move_step_cases (system : System α) (index : Nat) (surroundings : (op : Op) → op.Choice) :
    (∃ op next holdings, system.tasks[index]? = some (.running (.ask op next) holdings) ∧
      system.turn? index surroundings = some ⟨op, (system.state.perform op (surroundings op)).1⟩ ∧
      system.move (.step index surroundings) =
        { state := (system.state.perform op (surroundings op)).2,
          tasks := system.tasks.set index
            (.running (next (system.state.perform op (surroundings op)).1)
              (holdings.after op (system.state.perform op (surroundings op)).1)) }) ∨
    (∃ value holdings, system.tasks[index]? = some (.running (.done value) holdings) ∧
      system.turn? index surroundings = none ∧
      system.move (.step index surroundings) =
        { state := system.state, tasks := system.tasks.set index (.finished value) }) ∨
    system.turn? index surroundings = none ∧ system.move (.step index surroundings) = system := by
  -- The place of the task says which of the three it is.
  cases found : system.tasks[index]? with
  | none => exact .inr (.inr ⟨by simp [turn?, found], by simp [move, onTask, found]⟩)
  | some task =>
    -- A task that does not run is put back as it is.
    have same : system.tasks.set index task = system.tasks := by
      obtain ⟨inside, here⟩ := List.getElem?_eq_some_iff.1 found
      rw [← here, List.set_getElem_self]
    rcases task with ⟨value | ⟨op, next⟩, holdings⟩ | value | _
    · exact .inr (.inl ⟨value, holdings, rfl, by simp [turn?, found],
        by simp [move, onTask, found, Task.step]⟩)
    · exact .inl ⟨op, next, holdings, rfl, by simp [turn?, found],
        by simp [move, onTask, found, Task.step]⟩
    · exact .inr (.inr ⟨by simp [turn?, found], by simp [move, onTask, found, Task.step, same]⟩)
    · exact .inr (.inr ⟨by simp [turn?, found], by simp [move, onTask, found, Task.step, same]⟩)

/-- A turn of one task leaves the others as they are. -/
theorem getElem?_move_step (system : System α) {turn : Nat} (surroundings : (op : Op) → op.Choice)
    (apart : turn ≠ index) :
    (system.move (.step turn surroundings)).tasks[index]? = system.tasks[index]? := by
  -- Whatever the turn is, only the place of its task is written.
  rcases system.move_step_cases turn surroundings with
    ⟨_, _, _, _, _, moved⟩ | ⟨_, _, _, _, moved⟩ | ⟨_, moved⟩ <;> rw [moved]
  · exact List.getElem?_set_ne apart
  · exact List.getElem?_set_ne apart

/-- A task whose turns do not end is found at its next turn as it is now. -/
theorem exists_turn (turns : ∀ moment, ∃ later, moment ≤ later ∧ (schedule later).1 = index)
    {task : Task α} {moment : Nat}
    (found : (system.after schedule moment).tasks[index]? = some task) :
    ∃ later, (schedule later).1 = index ∧
      (system.after schedule later).tasks[index]? = some task := by
  -- Its next turn lies some moments ahead.
  obtain ⟨later, order, turn⟩ := turns moment
  obtain ⟨gap, rfl⟩ := Nat.exists_eq_add_of_le order
  -- The turns of others before that one are taken one at a time.
  induction gap generalizing moment with
  | zero => exact ⟨moment, turn, found⟩
  | succ gap ih =>
    by_cases mine : (schedule moment).1 = index
    · exact ⟨moment, mine, found⟩
    · -- Another task has the turn now, and leaves this one as it is.
      have same : moment + (gap + 1) = moment + 1 + gap := by omega
      rw [same] at turn
      refine ih ?_ (Nat.le_add_right _ _) turn
      rw [after, getElem?_move_step _ _ mine]
      exact found

/-- A task whose turns do not end comes to its own end, whatever the others do. -/
theorem finishes (turns : ∀ moment, ∃ later, moment ≤ later ∧ (schedule later).1 = index)
    {rest : Program α} {holdings : Holdings} {moment : Nat}
    (running : (system.after schedule moment).tasks[index]? = some (.running rest holdings)) :
    ∃ later value, (system.after schedule later).tasks[index]? = some (.finished value) := by
  -- Every turn takes the task one level further down the tree of its program.
  induction rest generalizing moment holdings with
  | done value =>
    obtain ⟨later, turn, found⟩ := exists_turn turns running
    -- The turn of a program that is done ends its task.
    refine ⟨later + 1, value, ?_⟩
    rw [after, turn, move, onTask, found]
    exact List.getElem?_set_self (List.getElem?_eq_some_iff.1 found).1
  | ask op next ih =>
    obtain ⟨later, turn, found⟩ := exists_turn turns running
    -- At its next turn it takes the step that it was waiting to take.
    have moved : (system.after schedule (later + 1)).tasks[index]? = some (.running
        (next ((system.after schedule later).state.perform op ((schedule later).2 op)).1)
        (holdings.after op
          ((system.after schedule later).state.perform op ((schedule later).2 op)).1)) := by
      rw [after, turn, move, onTask, found]
      exact List.getElem?_set_self (List.getElem?_eq_some_iff.1 found).1
    exact ih _ moved

end System

end RedisCluster
