import RedisCluster.Proofs.Program.History

/-! One task among others: what a move makes of it, and that it comes to its end if it gets its turns and
is not cancelled. -/

namespace RedisCluster

variable {α : Type}

/-- A move is the turn of a task. -/
def Move.isTurn (index : Nat) : Move α → Bool
  | .step turn _ => turn == index
  | .start _ | .cancel _ => false

/-- A program is done after so many turns at most, the one that ends its task included, whatever its
steps are answered in states as assumed. -/
def Program.EndsWithin (assumed : ClientState → Prop) : Nat → Program α → Prop
  | 0, _ => False
  | _ + 1, .done _ => True
  | turns + 1, .ask op next => ∀ (state : ClientState) (choice : op.Choice), assumed state →
      EndsWithin assumed turns (next (state.perform op choice).1)

namespace System

variable {system : System α} {index : Nat} {program rest : Program α} {task : Task α}
  {moves since : List (Move α)}

/-- In the course of some moves a program is started as the task of that number, and these are the moves
since. -/
def Starts (system : System α) (index : Nat) (program : Program α) (moves since : List (Move α)) :
    Prop :=
  ∃ front, moves = front ++ .start program :: since ∧ (system.run front).tasks.length = index

/-- A task stays as it is while others have their turns, are started or are cancelled. -/
theorem found_move (found : system.tasks[index]? = some task) {next : Move α}
    (other : next.isTurn index = false) (spared : next ≠ .cancel index) :
    (system.move next).tasks[index]? = some task := by
  -- Only turns and cancellations of the task itself touch its place.
  cases next with
  -- A new task stands behind the others.
  | start program =>
    have inside := (List.getElem?_eq_some_iff.1 found).1
    exact (List.getElem?_append_left inside).trans found
  | step turn surroundings =>
    have apart : turn ≠ index := by simpa [Move.isTurn] using other
    exact (system.getElem?_move_step surroundings apart).trans found
  | cancel turn =>
    have apart : turn ≠ index := by simpa using spared
    simp only [move, onTask]
    split
    · exact found
    · exact (List.getElem?_set_ne apart).trans found

/-- A move is the turn of a task that runs, or leaves the task as it is. -/
theorem turn_or_still (found : system.tasks[index]? = some task) (next : Move α) :
    (∃ after last, Task.Turn system.state task (system.deed? index next) after last ∧
      (system.move next).tasks[index]? = some after) ∨
    system.deed? index next = none ∧ (system.move next).tasks[index]? = some task := by
  -- The task has a place among the others, which is written if the move concerns it.
  have inside := (List.getElem?_eq_some_iff.1 found).1
  cases next with
  | start program => exact .inr ⟨rfl, found_move found rfl (by simp)⟩
  | step turn surroundings =>
    by_cases mine : turn = index
    -- The turn is a step, the end of the program, or nothing.
    · subst mine
      rw [deed?, if_pos rfl]
      rcases system.move_step_cases turn surroundings with
        ⟨op, follow, holdings, here, deed, moved⟩ | ⟨value, holdings, here, deed, moved⟩ |
        ⟨deed, moved⟩ <;> rw [deed, moved]
      · obtain rfl := Option.some.inj (here.symm.trans found)
        exact .inl ⟨_, _, .took (surroundings op), List.getElem?_set_self inside⟩
      · obtain rfl := Option.some.inj (here.symm.trans found)
        exact .inl ⟨_, _, .ended, List.getElem?_set_self inside⟩
      · exact .inr ⟨rfl, found⟩
    · exact .inr ⟨if_neg mine, found_move found (by simpa [Move.isTurn] using mine) (by simp)⟩
  | cancel turn =>
    by_cases mine : turn = index
    · subst mine
      cases task with
      | running rest holdings =>
        refine .inl ⟨_, _, .gaveUp, ?_⟩
        simp only [move, onTask, found, Task.cancel]
        exact List.getElem?_set_self inside
      -- A task that does not run is put back as it is.
      | finished value =>
        refine .inr ⟨rfl, ?_⟩
        simp only [move, onTask, found, Task.cancel]
        exact List.getElem?_set_self inside
      | cancelled =>
        refine .inr ⟨rfl, ?_⟩
        simp only [move, onTask, found, Task.cancel]
        exact List.getElem?_set_self inside
    · exact .inr ⟨rfl, found_move found rfl (by simpa using mine)⟩

variable {past : Trace}

/-- A task with what it has done stays as it should be in the course of any moves if its own turns keep it
so. -/
theorem suits_run (good : System α → Prop) (suits : Trace → Task α → Prop)
    (kept : ∀ system next, next ∈ moves → good system → good (system.move next))
    (turns : ∀ {system : System α} {before deed after last past}, good system →
      Task.Turn system.state before deed after last → suits past before →
      suits (past ++ deed.toList) after)
    (holds : good system) (found : system.tasks[index]? = some task) (suited : suits past task) :
    ∃ last, (system.run moves).tasks[index]? = some last ∧
      suits (past ++ system.past index moves) last := by
  -- The past grows with every turn of the task, and the task is what the turn has made of it.
  -- Without moves nothing is added.
  induction moves generalizing system task past with
  | nil => exact ⟨task, found, by rwa [System.past, List.append_nil]⟩
  | cons next rest ih =>
    have later := kept system next List.mem_cons_self holds
    have kept : ∀ system next, next ∈ rest → good system → good (system.move next) :=
      fun system other member => kept system other (List.mem_cons_of_mem _ member)
    rw [System.past, ← List.append_assoc]
    -- Either the move is a turn of the task and adds what it did, or it adds nothing.
    rcases turn_or_still found next with ⟨after, last, turn, here⟩ | ⟨nothing, here⟩
    · exact ih kept later here (turns holds turn suited)
    · rw [nothing, Option.toList_none, List.append_nil]
      exact ih kept later here suited

/-- A task that is over stays as it is. -/
theorem outcome?_run {value : α} (finished : system.outcome? index = some value)
    (moves : List (Move α)) : (system.run moves).outcome? index = some value := by
  refine run_induction (fun system => system.outcome? index = some value) finished
    (fun system next finished => ?_) moves
  rw [outcome?_eq_some_iff] at finished ⊢
  rcases turn_or_still finished next with ⟨after, last, turn, -⟩ | ⟨-, here⟩
  · -- Only tasks that run have turns.
    cases turn
  · exact here

/-- A task comes to its end if it gets as many turns as its program needs and is not cancelled. -/
theorem finishes_within (good : System α → Prop) {assumed : ClientState → Prop} {turns : Nat}
    {holdings : Holdings}
    (kept : ∀ system next, next ∈ moves → good system → good (system.move next))
    (meets : ∀ system, good system → assumed system.state) (holds : good system)
    (running : system.tasks[index]? = some (.running rest holdings))
    (ends : rest.EndsWithin assumed turns) (spared : .cancel index ∉ moves)
    (enough : turns ≤ moves.countP (·.isTurn index)) :
    ∃ value, (system.run moves).outcome? index = some value := by
  -- Only the turns of the task itself count, and each of them leaves one turn less to be taken.
  -- Without moves there were no turns, so the program needs none, which no program can.
  induction moves generalizing system rest turns holdings with
  | nil =>
    obtain rfl : turns = 0 := by simpa using enough
    exact ends.elim
  | cons next others ih =>
    have later := kept system next List.mem_cons_self holds
    have keeps : ∀ system next, next ∈ others → good system → good (system.move next) :=
      fun system other member => kept system other (List.mem_cons_of_mem _ member)
    have alone : .cancel index ∉ others := fun member => spared (List.mem_cons_of_mem _ member)
    cases mine : next.isTurn index with
    -- Another move leaves the task waiting where it is.
    | false =>
      rw [List.countP_cons_of_neg (by simp [mine])] at enough
      have here := found_move running mine fun same => spared (same ▸ List.mem_cons_self)
      exact ih keeps later here ends alone enough
    | true =>
      rw [List.countP_cons_of_pos (by simp [mine])] at enough
      -- Its own turn takes the task one level further down the tree of its program.
      cases next with
      | start program => cases mine
      | cancel turn => cases mine
      | step turn surroundings =>
        obtain rfl : turn = index := by simpa [Move.isTurn] using mine
        have inside := (List.getElem?_eq_some_iff.1 running).1
        cases turns with
        | zero => exact ends.elim
        | succ turns =>
          cases rest with
          -- A program that is done ends its task with this turn.
          | done value =>
            have finished : (system.move (.step turn surroundings)).outcome? turn = some value := by
              rw [outcome?_eq_some_iff]
              simp only [move, onTask, running, Task.step]
              exact List.getElem?_set_self inside
            exact ⟨value, outcome?_run finished others⟩
          -- The step is answered in a state as assumed, and fewer turns are needed from there.
          | ask op next =>
            have here : (system.move (.step turn surroundings)).tasks[turn]? = some
                (.running (next (system.state.perform op (surroundings op)).1)
                  (holdings.after op (system.state.perform op (surroundings op)).1)) := by
              simp only [move, onTask, running, Task.step]
              exact List.getElem?_set_self inside
            exact ih keeps later here (ends system.state (surroundings op) (meets system holds))
              alone (by omega)

/-- What a task has done in the course of some moves and of those behind them. -/
theorem past_append (system : System α) (index : Nat) (front back : List (Move α)) :
    system.past index (front ++ back) =
      system.past index front ++ (system.run front).past index back := by
  -- What is done in front does not depend on the moves behind it.
  induction front generalizing system with
  | nil => rfl
  | cons next rest ih =>
    rw [List.cons_append, past, past, ih, List.append_assoc]
    rfl

/-- A task that is not started yet has done nothing. -/
theorem past_of_unstarted {state : ClientState}
    (beyond : (({ state } : System α).run moves).tasks.length ≤ index) :
    ({ state } : System α).past index moves = [] := by
  -- Nothing is asked of the tasks here but that those which are not started are silent.
  have idle : (({ state } : System α).run moves).Each (fun _ _ => True) fun index =>
      ({ state } : System α).past index moves :=
    (@Each.run _ _ _ _ (fun _ => True) (.of_vacant state) trivial moves (fun _ _ => trivial)
      fun _ _ _ => ⟨trivial, trivial⟩).1
  exact idle.silent index beyond

/-- A task that is started has its whole program in front of it, and nothing behind it. -/
theorem found_of_start (state : ClientState) (front since : List (Move α)) (program : Program α) :
    let start : System α := { state }
    let begun := (start.run front).move (.start program)
    begun.tasks[(start.run front).tasks.length]? = some (Task.new program) ∧
      start.past (start.run front).tasks.length (front ++ .start program :: since) =
        begun.past (start.run front).tasks.length since := by
  intro start begun
  refine ⟨List.getElem?_concat_length, ?_⟩
  -- Being started is no step of the task.
  rw [past_append, past_of_unstarted (Nat.le_refl _)]
  rfl

variable {state : ClientState} {front : List (Move α)}

/-- A task that is as it should be when it is started stays so, with all that it does, if its own turns
keep it so. -/
theorem suits_of_start (good : System α → Prop) (suits : Trace → Task α → Prop)
    (kept : ∀ system next, next ∈ .start program :: since → good system → good (system.move next))
    (turns : ∀ {system : System α} {before deed after last past}, good system →
      Task.Turn system.state before deed after last → suits past before →
      suits (past ++ deed.toList) after)
    (holds : good (({ state } : System α).run front)) (suited : suits [] (Task.new program)) :
    let start : System α := { state }
    let index := (start.run front).tasks.length
    let moves := front ++ .start program :: since
    ∃ last, (start.run moves).tasks[index]? = some last ∧ suits (start.past index moves) last := by
  intro start index moves
  -- The task is found as it was started, with nothing done so far.
  obtain ⟨found, pasts⟩ := found_of_start state front since program
  rw [run_append, pasts]
  exact suits_run good suits
    (fun system next member => kept system next (List.mem_cons_of_mem _ member)) turns
    (kept _ _ List.mem_cons_self holds) found suited

/-- A task that is started comes to its end if it gets as many turns as its program needs and is not
cancelled. -/
theorem finishes_of_start (good : System α → Prop) {assumed : ClientState → Prop} {turns : Nat}
    (kept : ∀ system next, next ∈ .start program :: since → good system → good (system.move next))
    (meets : ∀ system, good system → assumed system.state)
    (holds : good (({ state } : System α).run front)) (ends : program.EndsWithin assumed turns) :
    let start : System α := { state }
    let index := (start.run front).tasks.length
    .cancel index ∉ since → turns ≤ since.countP (·.isTurn index) →
      ∃ value, (start.run (front ++ .start program :: since)).outcome? index = some value := by
  intro start index spared enough
  -- It is started like that, and the moves since are those that count.
  obtain ⟨found, -⟩ := found_of_start state front since program
  have later : ∀ system next, next ∈ since → good system → good (system.move next) :=
    fun system next member => kept system next (List.mem_cons_of_mem _ member)
  rw [run_append]
  show ∃ value, (((start.run front).move (.start program)).run since).outcome? index = some value
  exact finishes_within good later meets (kept _ _ List.mem_cons_self holds) found ends spared enough

variable {allowed : Op → Prop}

/-- What every step keeps is kept by every move. -/
theorem keeps_move (invariant : ClientState → Prop) (holds : invariant system.state) (next : Move α)
    (kept : ∀ (state : ClientState) (op : Op) (choice : op.Choice), invariant state →
      invariant (state.perform op choice).2) : invariant (system.move next).state := by
  -- A new task changes nothing in the state; a turn does what its task does; the rest is nothing.
  rcases system.move_cases next with
    ⟨_, _, _, moved⟩ | ⟨_, _, _, _, _, _, taken, _, moved⟩ | ⟨_, moved⟩ <;> rw [moved]
  · exact holds
  · cases taken with
    | took choice => exact kept _ _ choice holds
    -- A task that gives up leaves pools and may end its rediscovery, which are steps as well.
    | ended => exact holds
    | gaveUp =>
      exact Holdings.giveBack_keeps (fun state pool ticket => kept state _ ())
        (fun state => kept state _ ()) _ holds
  · exact holds

/-- What every step keeps goes on holding, whatever programs there are. -/
theorem keeps_run (invariant : ClientState → Prop) (holds : invariant system.state) (moves : List (Move α))
    (kept : ∀ (state : ClientState) (op : Op) (choice : op.Choice), invariant state →
      invariant (state.perform op choice).2) : invariant (system.run moves).state :=
  run_induction (fun system => invariant system.state) holds
    (fun _ next holds => keeps_move invariant holds next kept) moves

/-- Every task that runs takes allowed steps only from now on. -/
def AllWithin (allowed : Op → Prop) (system : System α) : Prop :=
  ∀ (index : Nat) (rest : Program α) (holdings : Holdings),
    system.tasks[index]? = some (.running rest holdings) → rest.Within allowed

/-- Where only allowed steps are taken, what each of them keeps is kept by every move. -/
theorem AllWithin.move (within : system.AllWithin allowed) (invariant : ClientState → Prop)
    (holds : invariant system.state) (next : Move α)
    (starts : ∀ program, next = .start program → program.Within allowed)
    (kept : ∀ (state : ClientState) (op : Op) (choice : op.Choice), allowed op → invariant state →
      invariant (state.perform op choice).2)
    (left : ∀ pool ticket, allowed (.leave pool ticket)) (ended : allowed .endRediscovery) :
    (system.move next).AllWithin allowed ∧ invariant (system.move next).state := by
  -- The task whose turn it is becomes another one, and the others stay as they are.
  have others : ∀ {turn : Nat} {after : Task α} {last : ClientState},
      (∀ (rest : Program α) (holdings : Holdings), after = .running rest holdings →
        rest.Within allowed) →
      AllWithin allowed { state := last, tasks := system.tasks.set turn after } := by
    intro turn after last suited index rest holdings found
    -- The place that was written has the new task, and each other one the old.
    rw [List.getElem?_set] at found
    split at found
    · split at found
      · exact suited rest holdings (Option.some.inj found)
      · cases found
    · exact within index rest holdings found
  rcases system.move_cases next with
    ⟨program, same, -, moved⟩ | ⟨turn, before, deed, after, last, here, taken, -, moved⟩ |
    ⟨-, moved⟩ <;> rw [moved]
  · refine ⟨fun index rest holdings found => ?_, holds⟩
    rw [List.getElem?_append] at found
    split at found
    · exact within index rest holdings found
    · -- Behind the old tasks there is only the new one.
      rw [List.getElem?_singleton] at found
      split at found
      · obtain ⟨rfl, -⟩ := Task.running.inj (Option.some.inj found)
        exact starts program same
      · cases found
  · cases taken with
    | took choice =>
      have first := within turn _ _ here
      refine ⟨others fun rest holdings same => ?_, kept _ _ choice first.1 holds⟩
      obtain ⟨rfl, -⟩ := Task.running.inj same
      exact first.2 _
    | ended => exact ⟨others (by simp), holds⟩
    -- A task that is cancelled leaves its pools and ends its rediscovery, which is allowed.
    | gaveUp =>
      exact ⟨others (by simp), Holdings.giveBack_keeps
        (fun state pool ticket => kept state _ () (left pool ticket))
        (fun state => kept state _ () ended) _ holds⟩
  · exact ⟨within, holds⟩

/-- Where only allowed steps are taken, what each of them keeps goes on holding. -/
theorem AllWithin.run (within : system.AllWithin allowed) (invariant : ClientState → Prop)
    (holds : invariant system.state)
    (starts : ∀ program, .start program ∈ moves → program.Within allowed)
    (kept : ∀ (state : ClientState) (op : Op) (choice : op.Choice), allowed op → invariant state →
      invariant (state.perform op choice).2)
    (left : ∀ pool ticket, allowed (.leave pool ticket)) (ended : allowed .endRediscovery) :
    (system.run moves).AllWithin allowed ∧ invariant (system.run moves).state := by
  -- One move at a time, both facts are carried along.
  induction moves generalizing system with
  | nil => exact ⟨within, holds⟩
  | cons next rest ih =>
    obtain ⟨within, holds⟩ := within.move invariant holds next
      (fun program same => starts program (same ▸ List.mem_cons_self)) kept left ended
    exact ih within holds fun program member => starts program (List.mem_cons_of_mem _ member)

end System

end RedisCluster
