import RedisCluster.Proofs.Client.Jobs

/-! Rediscoveries exclude each other: the flag of a client is up as long as one of its callers is at it,
and goes down however that caller ends. -/

namespace RedisCluster

variable {α : Type} {required : Trace → α → Prop} {translator : Translator}

/-- Only the beginning and the end of a rediscovery touch the flag. -/
theorem ClientState.rediscovering_perform (state : ClientState) {op : Op}
    (inner : op.isBoundary = false) (choice : op.Choice) :
    (state.perform op choice).2.rediscovering = state.rediscovering := by
  -- Steps inside pools and calls of the table have the rest of the state as it was.
  have onPool : ∀ {β : Type} (ref : PoolRef) (missing : β) (step : Pool → β × Pool),
      (state.onPool ref missing step).2.rediscovering = state.rediscovering := by
    intro β ref missing step
    unfold onPool
    split <;> rfl
  have mark : ∀ lease broken, (state.mark lease broken).rediscovering = state.rediscovering := by
    intro lease broken
    cases lease <;> rfl
  cases op with
  | enter ref => exact onPool _ _ _
  | awaitPermit ref ticket => exact onPool _ _ _
  | takeIdle ref ticket => exact onPool _ _ _
  | send lease request => exact mark _ _
  | answer lease request => exact mark _ _
  | dial node => cases choice <;> rfl
  -- These two steps are what a boundary is.
  | beginRediscovery => simp [Op.isBoundary] at inner
  | endRediscovery => simp [Op.isBoundary] at inner
  | _ => rfl

namespace Task

/-- A task runs, and is past the beginning of a rediscovery but not yet at its end. -/
def Rediscovers (past : Trace) : Task α → Prop
  | running _ _ => past.isRediscovering = true
  | finished _ | cancelled => False

/-- What a task would give back tells whether it is rediscovering. -/
def Remembers (past : Trace) : Task α → Prop
  | running _ holdings => holdings.rediscovering = past.isRediscovering
  | finished _ | cancelled => True

variable {before after : Task α} {deed : Option Exchange} {state last : ClientState} {past : Trace}

/-- A task goes on remembering with every step. -/
theorem Turn.remembers (turn : Turn state before deed after last) (remembers : before.Remembers past) :
    after.Remembers (past ++ deed.toList) := by
  cases turn with
  -- Who has finished or was cancelled would give nothing back.
  | ended => trivial
  | gaveUp => trivial
  | @took op next holdings choice =>
    have same : holdings.rediscovering = past.isRediscovering := remembers
    -- Holdings and trace are two records of one step, and they agree whatever the answer is.
    show (holdings.after op _).rediscovering = Trace.isRediscovering (past ++ [_])
    generalize (state.perform op choice).1 = answer
    cases op with
    -- The beginning adds what was answered, and the end clears it.
    | beginRediscovery => rw [Trace.isRediscovering_begin, ← same]; rfl
    | endRediscovery => rw [Trace.isRediscovering_end]; rfl
    | enter ref => rw [Trace.isRediscovering_concat past rfl, ← same]; cases answer <;> rfl
    | awaitPermit ref ticket =>
      rw [Trace.isRediscovering_concat past rfl, ← same]; cases answer <;> rfl
    | connect ref ticket => rw [Trace.isRediscovering_concat past rfl, ← same]; cases answer <;> rfl
    -- Every other step leaves both records as they were.
    | _ => rw [Trace.isRediscovering_concat past rfl, ← same]; rfl

/-- A turn leaves the flag and the standing of its task as they were, or raises both, or lowers both;
the flag is raised only while it is down. -/
theorem Turn.rediscovers (turn : Turn state before deed after last)
    (closing : ∀ past value, required past value → past.isRediscovering = false)
    (abides : before.Abides (Client.rules translator) required past)
    (remembers : before.Remembers past) :
    ((after.Rediscovers (past ++ deed.toList) ↔ before.Rediscovers past) ∧
      last.rediscovering = state.rediscovering) ∨
    (state.rediscovering = false ∧ last.rediscovering = true ∧
      after.Rediscovers (past ++ deed.toList)) ∨
    (before.Rediscovers past ∧ ¬after.Rediscovers (past ++ deed.toList) ∧
      last.rediscovering = false) := by
  cases turn with
  | ended =>
    -- Who comes to an end has ended the rediscovery before.
    have settled : past.isRediscovering = false := closing _ _ abides
    refine .inl ⟨iff_of_false (by simp [Rediscovers]) ?_, rfl⟩
    simp [Rediscovers, settled]
  | @gaveUp rest holdings =>
    have same : holdings.rediscovering = past.isRediscovering := remembers
    rw [Holdings.rediscovering_giveBack, same]
    -- A task that gives up lowers the flag exactly if it is the one that has raised it.
    cases at_it : past.isRediscovering with
    | true => exact .inr (.inr ⟨at_it, by simp [Rediscovers], rfl⟩)
    | false => exact .inl ⟨by simp [Rediscovers, at_it], rfl⟩
  | @took op next holdings choice =>
    have allowed : (Client.rules translator).allowed past op := abides.1
    cases boundary : op.isBoundary with
    | false =>
      -- An inner step touches neither the flag nor the standing of its task.
      refine .inl ⟨?_, state.rediscovering_perform boundary choice⟩
      simp only [Rediscovers, Option.toList_some, Trace.isRediscovering_concat past boundary]
    | true =>
      cases op with
      | beginRediscovery =>
        -- By the rules it wishes for a rediscovery only while it has none.
        have idle : past.isRediscovering = false := allowed
        cases flag : state.rediscovering with
        -- Somebody is at it, so this task is refused.
        | true =>
          refine .inl ⟨?_, rfl⟩
          simp [Rediscovers, ClientState.perform, flag, idle]
        | false =>
          refine .inr (.inl ⟨rfl, rfl, ?_⟩)
          simp [Rediscovers, ClientState.perform, flag]
      | endRediscovery =>
        -- Only who is at it may end it, and then the flag is down.
        refine .inr (.inr ⟨allowed, ?_, rfl⟩)
        simp [Rediscovers, ClientState.perform]
      | _ => simp [Op.isBoundary] at boundary

end Task

namespace System

/-- A task of a system is past the beginning of a rediscovery but not yet at its end. -/
def Rediscovers (system : System α) (past : Nat → Trace) (index : Nat) : Prop :=
  ∃ task, system.tasks[index]? = some task ∧ task.Rediscovers (past index)

/-- The flag is up exactly as long as some task is rediscovering, and never more than one is. -/
structure Guarded (translator : Translator) (required : Trace → α → Prop) (system : System α)
    (past : Nat → Trace) : Prop where
  each : system.Each (fun past task =>
    task.Abides (Client.rules translator) required past ∧ task.Remembers past) past
  unique : ∀ one other, system.Rediscovers past one → system.Rediscovers past other → one = other
  flagged : system.state.rediscovering = true ↔ ∃ index, system.Rediscovers past index

namespace Guarded

variable {system : System α} {past : Nat → Trace}

/-- Where the same tasks are rediscovering and the flag is as it was, rediscoveries are kept apart as
before. -/
theorem of_same {later : System α} {now : Nat → Trace}
    (guarded : system.Guarded translator required past)
    (each : later.Each (fun past task =>
      task.Abides (Client.rules translator) required past ∧ task.Remembers past) now)
    (same : ∀ index, later.Rediscovers now index ↔ system.Rediscovers past index)
    (kept : later.state.rediscovering = system.state.rediscovering) :
    later.Guarded translator required now where
  each := each
  unique one other := by
    rw [same, same]
    exact guarded.unique one other
  flagged := by
    simp only [same, kept]
    exact guarded.flagged

/-- A task that is about to start is not rediscovering. -/
theorem start (guarded : system.Guarded translator required past) {program : Program α}
    (conducts : program.Conducts (Client.rules translator) required []) :
    Guarded translator required { system with tasks := system.tasks ++ [Task.new program] } past := by
  -- The new task has nothing behind it and holds nothing.
  have each := guarded.each.start program ⟨conducts, rfl⟩
  refine guarded.of_same each (fun index => ⟨?_, ?_⟩) rfl
  · rintro ⟨task, located, rediscovers⟩
    rw [List.getElem?_append] at located
    split at located
    · exact ⟨task, located, rediscovers⟩
    · -- It has done nothing so far, and nothing else comes behind the old tasks.
      rename_i outside
      rw [guarded.each.silent index (Nat.le_of_not_lt outside)] at rediscovers
      rw [List.getElem?_singleton] at located
      split at located
      · rw [← Option.some.inj located] at rediscovers
        cases rediscovers
      · cases located
  -- An old task is where it was in the list.
  · rintro ⟨task, located, rediscovers⟩
    have inside := (List.getElem?_eq_some_iff.1 located).1
    exact ⟨task, (List.getElem?_append_left inside).trans located, rediscovers⟩

/-- The turn of one task keeps rediscoveries apart. -/
theorem turn (guarded : system.Guarded translator required past)
    (closing : ∀ past value, required past value → past.isRediscovering = false) {turn : Nat}
    {before after : Task α} {deed : Option Exchange} {last : ClientState}
    (found : system.tasks[turn]? = some before)
    (taken : Task.Turn system.state before deed after last) :
    Guarded translator required { state := last, tasks := system.tasks.set turn after }
      (extend past turn deed) := by
  -- The task has kept to the rules up to its turn, and remembers what it has begun.
  obtain ⟨abides, remembers⟩ := guarded.each.holds turn before found
  have each := guarded.each.turn last found
    ⟨taken.abides (fun _ _ _ => trivial) abides, taken.remembers remembers⟩
  have was : system.Rediscovers past turn ↔ before.Rediscovers (past turn) := by
    simp [Rediscovers, found]
  have mine : Rediscovers { state := last, tasks := system.tasks.set turn after }
      (extend past turn deed) turn ↔ after.Rediscovers (past turn ++ deed.toList) := by
    simp [Rediscovers, extend, (List.getElem?_eq_some_iff.1 found).1]
  have others : ∀ index, index ≠ turn →
      (Rediscovers { state := last, tasks := system.tasks.set turn after }
        (extend past turn deed) index ↔ system.Rediscovers past index) := by
    -- The others have neither moved nor done anything.
    intro index apart
    simp only [Rediscovers, extend, if_neg (Ne.symm apart), List.getElem?_set_ne (Ne.symm apart)]
  rcases taken.rediscovers closing abides remembers with
    ⟨same, kept⟩ | ⟨down, up, begun⟩ | ⟨begun, stopped, down⟩
  -- The same tasks are at it, this one or another.
  · refine guarded.of_same each (fun index => ?_) kept
    by_cases here : index = turn
    · rw [here, mine, same, was]
    · exact others index here
  · -- The flag was down, so nobody else is at it.
    have only : ∀ index, Rediscovers { state := last, tasks := system.tasks.set turn after }
        (extend past turn deed) index → index = turn := by
      intro index rediscovers
      refine Classical.byContradiction fun apart => ?_
      have raised := guarded.flagged.2 ⟨index, (others index apart).1 rediscovers⟩
      simp [raised] at down
    exact ⟨each, fun one other first second => (only one first).trans (only other second).symm,
      iff_of_true up ⟨turn, mine.2 begun⟩⟩
  · -- This task was the one that was at it, and has stopped.
    have nobody : ∀ index, ¬Rediscovers { state := last, tasks := system.tasks.set turn after }
        (extend past turn deed) index := by
      intro index rediscovers
      by_cases here : index = turn
      · exact stopped (mine.1 (here ▸ rediscovers))
      · exact here (guarded.unique index turn ((others index here).1 rediscovers) (was.2 begun))
    exact ⟨each, fun one _ first => (nobody one first).elim,
      iff_of_false (by simp [down]) (not_exists.2 nobody)⟩

/-- Every move keeps rediscoveries apart. -/
theorem move (guarded : system.Guarded translator required past)
    (closing : ∀ past value, required past value → past.isRediscovering = false) (next : Move α)
    (starts : ∀ program, next = .start program →
      program.Conducts (Client.rules translator) required []) :
    (system.move next).Guarded translator required (system.pastAfter past next) := by
  rcases system.move_cases next with
    ⟨program, same, past, moved⟩ | ⟨_, _, _, _, _, found, taken, past, moved⟩ | ⟨past, moved⟩ <;>
    rw [past, moved]
  · exact guarded.start (starts program same)
  · exact guarded.turn closing found taken
  · exact guarded

end Guarded

end System

namespace Client

variable {client : Client} {state : ClientState} {moves : List (Move Outcome)}

/-- Rediscoveries of a client exclude each other from the first move on. -/
theorem guarded_run (idle : state.rediscovering = false)
    (jobs : ∀ program, .start program ∈ moves → ∃ job : Job, program = job.program client) :
    (({ state } : System Outcome).run moves).Guarded client.dispatcher.translator Job.Settled
      fun index => ({ state } : System Outcome).past index moves := by
  refine System.run_past_induction (System.Guarded client.dispatcher.translator Job.Settled)
    { state } (fun _ => []) ?_ fun system past next member guarded =>
      guarded.move (fun _ _ settled => settled.1) next fun program same => ?_
  -- At first there is no task that could be at it.
  · have nobody : ∀ index, ¬System.Rediscovers ({ state } : System Outcome) (fun _ => []) index :=
      fun index ⟨task, found, _⟩ => by simp at found
    exact ⟨.of_vacant state, fun one _ first => (nobody one first).elim,
      iff_of_false (by simp [idle]) (not_exists.2 nobody)⟩
  · obtain ⟨job, rfl⟩ := jobs program (same ▸ member)
    exact job.program_conducts client

/-- However the jobs of a client interleave and are cancelled, at most one of them is rediscovering at a
time, and the client says so exactly as long as one is. A wish to rediscover is refused only while
another job is rediscovering, and the refusal changes nothing; a job that is refused altogether has
done nothing but wish. -/
theorem rediscoveries_exclude_each_other (idle : state.rediscovering = false)
    (jobs : ∀ program, .start program ∈ moves → ∃ job : Job, program = job.program client) :
    let system : System Outcome := { state }
    let rediscovers := fun moves index =>
      (system.run moves).Rediscovers (fun index => system.past index moves) index
    (∀ one other, rediscovers moves one → rediscovers moves other → one = other) ∧
    (((system.run moves).state.perform .isRediscovering ()).1 = true ↔
      ∃ index, rediscovers moves index) ∧
    (∀ index, (system.run moves).outcome? index = some (.rediscovered .alreadyInProgress) →
      system.past index moves = [⟨.beginRediscovery, false⟩]) ∧
    ∀ index front back, system.past index moves = front ++ ⟨.beginRediscovery, false⟩ :: back →
      ∃ earlier surroundings later other, moves = earlier ++ .step index surroundings :: later ∧
        system.past index earlier = front ∧ other ≠ index ∧ rediscovers earlier other ∧
        (system.run (earlier ++ [.step index surroundings])).state =
          (system.run earlier).state := by
  have guarded := guarded_run idle jobs
  refine ⟨guarded.unique, guarded.flagged, fun index refused => ?_, fun index front back did => ?_⟩
  -- The job has settled in being refused, and the rules have kept it from doing more.
  · exact (guarded.each.holds index _ (System.outcome?_eq_some_iff.1 refused)).1.2 rfl
  · obtain ⟨earlier, surroundings, later, rfl, before, turn⟩ := System.exists_moment did
    have jobs : ∀ program, .start program ∈ earlier → ∃ job : Job, program = job.program client :=
      fun program member => jobs program (List.mem_append_left _ member)
    -- The answer shows that the flag was up when the wish came.
    have apart := guarded_run idle jobs
    obtain ⟨op, next, holdings, found, told, moved⟩ := System.turn_cases turn
    obtain ⟨rfl, answered⟩ := Exchange.mk.inj told
    have up : (({ state } : System Outcome).run earlier).state.rediscovering = true := by
      simpa [ClientState.perform] using eq_of_heq answered
    obtain ⟨other, at_it⟩ := apart.flagged.1 up
    refine ⟨earlier, surroundings, later, other, rfl, before, ?_, at_it, ?_⟩
    · -- Whoever wishes is not rediscovering.
      rintro rfl
      obtain ⟨task, located, rediscovers⟩ := at_it
      rw [found, Option.some.injEq] at located
      subst located
      have allowed := (apart.each.holds other _ found).1.1
      exact Bool.false_ne_true (allowed.symm.trans rediscovers)
    -- A refused wish leaves the flag up, as it was.
    · rw [System.run_append]
      refine moved.trans ?_
      rw [ClientState.perform, ← up]

/-- A client whose layout two callers want to rediscover, of whom the first one has begun when the
second one wishes to. -/
def rivalry (client : Client) : List (Move Outcome) :=
  let surroundings := Op.surroundings (fun _ => .ok ()) fun _ _ => .ok .ok
  [.start (Job.program client (.rediscover none)), .start (Job.program client (.rediscover none)),
    .step 0 surroundings, .step 1 surroundings, .step 1 surroundings]

/-- The second one of two rivals is refused, and once the first one is cancelled nobody is rediscovering
any more. -/
theorem rivals_exclude_each_other :
    let client : Client := ⟨Dispatcher.new .identity 2⟩
    let system : System Outcome := { state := .initial {} }
    let rediscovers := fun moves index =>
      (system.run moves).Rediscovers (fun index => system.past index moves) index
    (system.run (rivalry client)).outcome? 1 = some (.rediscovered .alreadyInProgress) ∧
      system.past 1 (rivalry client) = [⟨.beginRediscovery, false⟩] ∧
      (∀ index, rediscovers (rivalry client) index ↔ index = 0) ∧
      ((system.run (rivalry client)).state.perform .isRediscovering ()).1 = true ∧
      ∀ index, ¬rediscovers (rivalry client ++ [.cancel 0]) index := by
  intro client system rediscovers
  have jobs : ∀ program, .start program ∈ rivalry client →
      ∃ job : Job, program = job.program client := by
    intro program member
    -- Only two of the moves start a program, and both are the same wish.
    simp only [rivalry, List.mem_cons, Move.start.injEq, reduceCtorEq, List.not_mem_nil,
      or_false] at member
    exact ⟨.rediscover none, member.elim id id⟩
  have no_others : ∀ program, .start program ∈ rivalry client ++ [.cancel 0] →
      ∃ job : Job, program = job.program client :=
    fun program member => jobs program (by simpa using member)
  have idle : (ClientState.initial {}).rediscovering = false := rfl
  have refused : (system.run (rivalry client)).outcome? 1 = some (.rediscovered .alreadyInProgress) :=
    rfl
  have first : rediscovers (rivalry client) 0 := ⟨_, rfl, rfl⟩
  obtain ⟨unique, flagged, alone, _⟩ := rediscoveries_exclude_each_other idle jobs
  obtain ⟨_, lowered, _⟩ := rediscoveries_exclude_each_other idle no_others
  -- The second one is refused and the first one at it, which the theorem says of both.
  refine ⟨refused, alone 1 refused, fun index => ⟨fun at_it => unique index 0 at_it first, ?_⟩,
    flagged.2 ⟨0, first⟩, fun index at_it => ?_⟩
  · rintro rfl
    exact first
  · -- The first one gave the flag back when it was cancelled.
    have down : ((system.run (rivalry client ++ [.cancel 0])).state.perform .isRediscovering ()).1 =
        false := rfl
    exact Bool.false_ne_true (down.symm.trans (lowered.2 ⟨index, at_it⟩))

end Client

end RedisCluster
