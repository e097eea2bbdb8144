import RedisCluster.Proofs.Program.Conduct
import RedisCluster.Proofs.Program.Schedule

/-! Tasks that are started, take steps and are cancelled in any order: what each of them has done by
now, and that programs which keep to some rules do so side by side. -/

namespace RedisCluster

deriving instance DecidableEq for Request

deriving instance DecidableEq for Op

/-- Whatever the step, answers to it can be compared. -/
instance decidableEqAnswer : (op : Op) → DecidableEq op.Answer
  | .isClosed | .isRediscovering | .beginRediscovery | .close | .takeIdle _ _ =>
    inferInstanceAs (DecidableEq Bool)
  | .owner _ | .lookup _ => inferInstanceAs (DecidableEq (Option PoolRef))
  | .register _ | .assign _ _ => inferInstanceAs (DecidableEq (Except ClientError PoolRef))
  | .rebuild _ | .awaitPermit _ _ | .connect _ _ =>
    inferInstanceAs (DecidableEq (Except ClientError Unit))
  | .enter _ => inferInstanceAs (DecidableEq (Except ClientError Ticket))
  | .dial _ => inferInstanceAs (DecidableEq (Except ClientError Lease))
  | .answer _ _ => inferInstanceAs (DecidableEq (Except ClientError Frame))
  | .nodeCount => inferInstanceAs (DecidableEq Nat)
  | .knownPools => inferInstanceAs (DecidableEq (List PoolRef))
  | .reset | .endRediscovery | .leave _ _ | .closePool _ | .send _ _ =>
    inferInstanceAs (DecidableEq Unit)

deriving instance DecidableEq for Exchange

variable {α : Type} {rules : Rules} {required : Trace → α → Prop}

/-- What is kept by leaving a pool is kept by leaving some pools one after the other. -/
theorem ClientState.keeps_of_leave (invariant : ClientState → Prop)
    (left : ∀ (state : ClientState) pool ticket, invariant state →
      invariant (state.perform (.leave pool ticket) ()).2)
    (places : List (PoolRef × Ticket)) {state : ClientState} (first : invariant state) :
    invariant (places.foldl
      (fun state place => (state.perform (.leave place.1 place.2) ()).2) state) := by
  -- The pools are left in their order, each in the state that the one before it has led to.
  induction places generalizing state with
  | nil => exact first
  | cons place rest ih => exact ih (left state place.1 place.2 first)

/-- What is kept by leaving a pool and by ending a rediscovery is kept when a task gives back what it
holds. -/
theorem Holdings.giveBack_keeps {invariant : ClientState → Prop}
    (left : ∀ (state : ClientState) pool ticket, invariant state →
      invariant (state.perform (.leave pool ticket) ()).2)
    (ended : ∀ state : ClientState, invariant state →
      invariant (state.perform .endRediscovery ()).2)
    (holdings : Holdings) {state : ClientState} (first : invariant state) :
    invariant (holdings.giveBack state) := by
  -- First all pools are left, and then the rediscovery is ended if there is one.
  have places := ClientState.keeps_of_leave invariant left holdings.places first
  unfold Holdings.giveBack
  dsimp only
  split
  · exact ended _ places
  · exact places

/-- A task that gives back what it holds ends the rediscovery that it has started, and no other. -/
theorem Holdings.rediscovering_giveBack (holdings : Holdings) (state : ClientState) :
    (holdings.giveBack state).rediscovering =
      if holdings.rediscovering then false else state.rediscovering := by
  unfold Holdings.giveBack
  dsimp only
  -- The task had started the rediscovery, so it is over now.
  split
  · rfl
  · -- Pools know nothing of rediscoveries, so leaving them leaves the flag alone.
    exact ClientState.keeps_of_leave (fun later => later.rediscovering = state.rediscovering)
      (fun _ _ _ same => same) holdings.places rfl

namespace Task

/-- What one move makes of a task that runs, and the step that the task takes in it, if it takes
one. -/
inductive Turn : ClientState → Task α → Option Exchange → Task α → ClientState → Prop where
  | took {state : ClientState} {op : Op} {next : op.Answer → Program α} {holdings : Holdings}
      (choice : op.Choice) :
      Turn state (running (.ask op next) holdings) (some ⟨op, (state.perform op choice).1⟩)
        (running (next (state.perform op choice).1)
          (holdings.after op (state.perform op choice).1))
        (state.perform op choice).2
  | ended {state : ClientState} {value : α} {holdings : Holdings} :
      Turn state (running (.done value) holdings) none (finished value) state
  | gaveUp {state : ClientState} {rest : Program α} {holdings : Holdings} :
      Turn state (running rest holdings) none cancelled (holdings.giveBack state)

/-- What is left of a task keeps to the rules and what has come of it is as required, unless it was
cancelled. -/
def Abides (rules : Rules) (required : Trace → α → Prop) (past : Trace) : Task α → Prop
  | running rest _ => rest.Conducts rules required past
  | finished value => required past value
  | cancelled => True

/-- A task keeps to the rules as long as its steps are answered as granted. -/
theorem Turn.abides {before after : Task α} {deed : Option Exchange} {state last : ClientState}
    {past : Trace} (turn : Turn state before deed after last)
    (granted : ∀ op (choice : op.Choice), rules.allowed past op →
      rules.granted past ⟨op, (state.perform op choice).1⟩)
    (abides : before.Abides rules required past) :
    after.Abides rules required (past ++ deed.toList) := by
  cases turn with
  -- Its step was allowed, so the answer to it is granted.
  | took choice => exact abides.2 _ (granted _ choice abides.1)
  | ended =>
    -- A task that ends or gives up has taken no step in this move.
    rw [Option.toList_none, List.append_nil]
    exact abides
  | gaveUp => trivial

end Task

namespace System

variable {system : System α} {index : Nat}

/-- What has come of a task, once it has come to its end. -/
def outcome? (system : System α) (index : Nat) : Option α :=
  match system.tasks[index]? with
  | some (.finished value) => some value
  | _ => none

/-- Only a task that has come to its end has an outcome. -/
theorem outcome?_eq_some_iff {value : α} :
    system.outcome? index = some value ↔ system.tasks[index]? = some (.finished value) := by
  unfold outcome?
  -- One way of being found has an outcome, and in all others there is none.
  split
  · rename_i found
    rw [found, Option.some.injEq, Option.some.injEq, Task.finished.injEq]
  · rename_i other
    exact iff_of_false nofun (other value)

/-- Moves in a row are some moves and the moves behind them. -/
theorem run_append (system : System α) (front back : List (Move α)) :
    system.run (front ++ back) = (system.run front).run back :=
  List.foldl_append

/-- A step that a task takes is the next one of its program, and changes the shared state as that
step does. -/
theorem turn_cases {surroundings : (op : Op) → op.Choice} {exchange : Exchange}
    (turn : system.turn? index surroundings = some exchange) :
    ∃ op next holdings, system.tasks[index]? = some (.running (.ask op next) holdings) ∧
      exchange = ⟨op, (system.state.perform op (surroundings op)).1⟩ ∧
      (system.move (.step index surroundings)).state =
        (system.state.perform op (surroundings op)).2 := by
  -- Of the three kinds of turns only the first one shows a step.
  rcases system.move_step_cases index surroundings with
    ⟨op, next, holdings, found, deed, moved⟩ | ⟨_, _, _, deed, _⟩ | ⟨deed, _⟩ <;> rw [deed] at turn
  · exact ⟨op, next, holdings, found, (Option.some.inj turn).symm, by rw [moved]⟩
  · cases turn
  · cases turn

/-- The step that a move has a task take. -/
def deed? (system : System α) (index : Nat) : Move α → Option Exchange
  | .step turn surroundings => if turn = index then system.turn? turn surroundings else none
  | .start _ | .cancel _ => none

/-- What a task does in the course of some moves. -/
def past (system : System α) (index : Nat) : List (Move α) → Trace
  | [] => []
  | next :: rest => (system.deed? index next).toList ++ (system.move next).past index rest

/-- Whatever a task has done, there was a moment at which it did that. -/
theorem exists_moment {moves : List (Move α)} {front back : Trace} {exchange : Exchange}
    (did : system.past index moves = front ++ exchange :: back) :
    ∃ earlier surroundings later, moves = earlier ++ .step index surroundings :: later ∧
      system.past index earlier = front ∧
      (system.run earlier).turn? index surroundings = some exchange := by
  -- Every move contributes one step at most, so the cut in the past lies at one of them.
  induction moves generalizing system front with
  | nil => simp [past] at did
  | cons next rest ih =>
    rw [past] at did
    -- Behind a move that is not the one, the moment is found among the others.
    have behind : ∀ {front : Trace},
        (system.move next).past index rest = front ++ exchange :: back →
        ∃ earlier surroundings later, next :: rest = earlier ++ .step index surroundings :: later ∧
          system.past index earlier = (system.deed? index next).toList ++ front ∧
          (system.run earlier).turn? index surroundings = some exchange := by
      intro front did
      obtain ⟨earlier, surroundings, later, rfl, same, turn⟩ := ih did
      exact ⟨next :: earlier, surroundings, later, rfl, by rw [past, same], turn⟩
    cases deed : system.deed? index next with
    -- The move has no step to show, so the moment lies behind it.
    | none =>
      simp only [deed, Option.toList_none, List.nil_append] at did behind
      exact behind did
    | some first =>
      simp only [deed, Option.toList_some, List.singleton_append] at did behind
      -- The step of this move is in front of the one that is looked for.
      cases front with
      | cons other front =>
        obtain ⟨rfl, rest_did⟩ := List.cons.inj did
        exact behind rest_did
      | nil =>
        obtain ⟨rfl, -⟩ := List.cons.inj did
        -- Only a turn of the task itself is a step that it takes.
        cases next with
        | start program => simp [deed?] at deed
        | cancel turn => simp [deed?] at deed
        | step turn surroundings =>
          simp only [deed?] at deed
          split at deed
          · rename_i same
            subst same
            exact ⟨[], surroundings, rest, rfl, rfl, deed⟩
          · cases deed

/-- What tasks have done once one of them has taken a step, or none of them. -/
def extend (past : Nat → Trace) (turn : Nat) (deed : Option Exchange) : Nat → Trace :=
  fun index => if turn = index then past index ++ deed.toList else past index

@[simp] theorem extend_none (past : Nat → Trace) (turn : Nat) : extend past turn none = past := by
  funext index
  simp [extend]

/-- What tasks have done after one more move. -/
def pastAfter (system : System α) (past : Nat → Trace) (next : Move α) : Nat → Trace :=
  fun index => past index ++ (system.deed? index next).toList

/-- A move starts a task, is the turn of one that runs, or changes nothing. -/
theorem move_cases (system : System α) (next : Move α) :
    (∃ program, next = .start program ∧ (∀ past, system.pastAfter past next = past) ∧
      system.move next = { system with tasks := system.tasks ++ [Task.new program] }) ∨
    (∃ turn before deed after last, system.tasks[turn]? = some before ∧
      Task.Turn system.state before deed after last ∧
      (∀ past, system.pastAfter past next = extend past turn deed) ∧
      system.move next = { state := last, tasks := system.tasks.set turn after }) ∨
    ((∀ past, system.pastAfter past next = past) ∧ system.move next = system) := by
  -- Where no task takes a step, all have done what they had done before.
  have unchanged : (∀ index, system.deed? index next = none) →
      ∀ past, system.pastAfter past next = past := by
    intro deeds past
    funext index
    rw [pastAfter, deeds, Option.toList_none, List.append_nil]
  have changed : ∀ {turn deed},
      (∀ index, system.deed? index next = if turn = index then deed else none) →
      ∀ past, system.pastAfter past next = extend past turn deed := by
    intro turn deed deeds past
    funext index
    rw [pastAfter, extend, deeds]
    split
    · rfl
    · rw [Option.toList_none, List.append_nil]
  cases next with
  -- Starting a task is no step of any.
  | start program => exact .inl ⟨program, rfl, unchanged fun _ => rfl, rfl⟩
  | step turn surroundings =>
    rcases system.move_step_cases turn surroundings with
      ⟨op, next, holdings, found, deed, moved⟩ | ⟨value, holdings, found, deed, moved⟩ |
      ⟨deed, moved⟩
    · exact .inr (.inl ⟨turn, _, _, _, _, found, .took (surroundings op),
        changed fun index => by rw [deed?, deed], moved⟩)
    · exact .inr (.inl ⟨turn, _, _, _, _, found, .ended,
        changed fun index => by rw [deed?, deed], moved⟩)
    · exact .inr (.inr ⟨unchanged fun index => by rw [deed?, deed, ite_self], moved⟩)
  | cancel turn =>
    cases found : system.tasks[turn]? with
    -- Where no such task is, cancelling changes nothing.
    | none => exact .inr (.inr ⟨unchanged fun _ => rfl, by simp [move, onTask, found]⟩)
    | some task =>
      -- A task that does not run is put back as it is.
      have same : system.tasks.set turn task = system.tasks := by
        obtain ⟨inside, here⟩ := List.getElem?_eq_some_iff.1 found
        rw [← here, List.set_getElem_self]
      cases task with
      | running rest holdings =>
        exact .inr (.inl ⟨turn, _, none, _, _, found, .gaveUp,
          changed fun _ => (ite_self _).symm, by simp [move, onTask, found, Task.cancel]⟩)
      | finished value =>
        exact .inr (.inr ⟨unchanged fun _ => rfl, by simp [move, onTask, found, Task.cancel, same]⟩)
      | cancelled =>
        exact .inr (.inr ⟨unchanged fun _ => rfl, by simp [move, onTask, found, Task.cancel, same]⟩)

/-- What holds of a system and of what its tasks have done, and is kept by every move, holds after any
moves. -/
theorem run_past_induction (invariant : System α → (Nat → Trace) → Prop) (system : System α)
    (past : Nat → Trace) (first : invariant system past) {moves : List (Move α)}
    (kept : ∀ system past next, next ∈ moves → invariant system past →
      invariant (system.move next) (system.pastAfter past next)) :
    invariant (system.run moves) fun index => past index ++ system.past index moves := by
  induction moves generalizing system past with
  | nil =>
    simp only [System.past, List.append_nil]
    exact first
  | cons next rest ih =>
    -- The invariant is carried over the first move, and on over the others.
    have moved := ih _ _ (kept system past next List.mem_cons_self first)
      fun system past later member => kept system past later (List.mem_cons_of_mem _ member)
    -- What the first move adds to the past stands before what the others add.
    simp only [pastAfter, List.append_assoc] at moved
    exact moved

/-- Every task, with what it has done, is as it should be. -/
structure Each (suits : Trace → Task α → Prop) (system : System α) (past : Nat → Trace) : Prop where
  holds : ∀ index task, system.tasks[index]? = some task → suits (past index) task
  /-- A task that was never started has done nothing. -/
  silent : ∀ index, system.tasks.length ≤ index → past index = []

namespace Each

variable {suits : Trace → Task α → Prop} {past : Nat → Trace}

/-- Before any task is started all of them are as they should be. -/
theorem of_vacant (state : ClientState) : Each suits { state } fun _ => [] :=
  ⟨fun index task found => by simp at found, fun _ _ => rfl⟩

/-- One more task that is as it should be makes no difference to the others. -/
theorem start (each : system.Each suits past) (program : Program α)
    (suited : suits [] (Task.new program)) :
    Each suits { system with tasks := system.tasks ++ [Task.new program] } past := by
  refine ⟨fun index task located => ?_, fun index beyond => each.silent index ?_⟩
  -- It is one of the old tasks, or the new one.
  · rw [List.getElem?_append] at located
    split at located
    · exact each.holds index task located
    · -- Behind the old tasks there is only the new one, which has done nothing.
      rename_i outside
      rw [each.silent index (Nat.le_of_not_lt outside)]
      rw [List.getElem?_singleton] at located
      split at located
      · exact Option.some.inj located ▸ suited
      · cases located
  · simp only [List.length_append, List.length_singleton] at beyond
    omega

/-- The turn of a task that stays as it should be makes no difference to the others. -/
theorem turn (each : system.Each suits past) {turn : Nat} {before after : Task α}
    {deed : Option Exchange} (last : ClientState) (found : system.tasks[turn]? = some before)
    (suited : suits (past turn ++ deed.toList) after) :
    Each suits { state := last, tasks := system.tasks.set turn after }
      (extend past turn deed) := by
  refine ⟨fun index task located => ?_, fun index beyond => ?_⟩
  -- It is the task whose turn it was, or one of the others.
  · rw [List.getElem?_set] at located
    rw [extend]
    split at located
    · rename_i same
      subst same
      rw [if_pos rfl]
      split at located
      · exact Option.some.inj located ▸ suited
      · cases located
    · rename_i apart
      rw [if_neg apart]
      exact each.holds index task located
  · -- The task whose turn it is was started, so it is another one.
    rw [List.length_set] at beyond
    have inside := (List.getElem?_eq_some_iff.1 found).1
    rw [extend, if_neg (by omega)]
    exact each.silent index beyond

/-- A task that stops does nothing more, and makes no difference to the others. -/
theorem stop (each : system.Each suits past) {turn : Nat} {before after : Task α} (last : ClientState)
    (found : system.tasks[turn]? = some before) (suited : suits (past turn) after) :
    Each suits { state := last, tasks := system.tasks.set turn after } past := by
  -- Stopping adds nothing to what the task has done.
  have same : past turn ++ (none : Option Exchange).toList = past turn := List.append_nil _
  have stopped := each.turn last found (same.symm ▸ suited)
  rwa [extend_none] at stopped

variable {invariant : ClientState → Prop}

/-- Tasks and state are as they should be after a move if new tasks are and turns keep them so. -/
theorem move (each : system.Each suits past) (holds : invariant system.state) (next : Move α)
    (starts : ∀ program, next = .start program → suits [] (Task.new program))
    (turns : ∀ {state before deed after last past}, Task.Turn state before deed after last →
      invariant state → suits past before →
      suits (past ++ deed.toList) after ∧ invariant last) :
    (system.move next).Each suits (system.pastAfter past next) ∧
      invariant (system.move next).state := by
  rcases system.move_cases next with
    ⟨program, same, past, moved⟩ | ⟨turn, before, deed, after, last, found, taken, past, moved⟩ |
    -- A new task begins as it should be, and a turn leads from one such task to another.
    ⟨past, moved⟩ <;> rw [past, moved]
  · exact ⟨each.start program (starts program same), holds⟩
  · obtain ⟨suited, holds⟩ := turns taken holds (each.holds turn before found)
    exact ⟨each.turn last found suited, holds⟩
  · exact ⟨each, holds⟩

/-- Tasks and state stay as they should be at every moment. -/
theorem run (each : system.Each suits past) (holds : invariant system.state) {moves : List (Move α)}
    (starts : ∀ program, .start program ∈ moves → suits [] (Task.new program))
    (turns : ∀ {state before deed after last past}, Task.Turn state before deed after last →
      invariant state → suits past before →
      suits (past ++ deed.toList) after ∧ invariant last) :
    ((system.run moves).Each suits fun index => past index ++ system.past index moves) ∧
      invariant (system.run moves).state :=
  run_past_induction (fun system past => system.Each suits past ∧ invariant system.state) system past
    ⟨each, holds⟩ fun _ _ next member ⟨each, holds⟩ =>
      each.move holds next (fun program same => starts program (same ▸ member)) turns

end Each

end System

end RedisCluster
