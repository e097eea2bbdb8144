import RedisCluster.Program.Trace

/-! Programs that have taken some of their steps, and what the rest of their run makes of them. -/

namespace RedisCluster

/-- Other programs take any steps, as many as they like. -/
inductive ClientState.Later : ClientState → ClientState → Prop where
  | refl (state : ClientState) : Later state state
  | step {state after : ClientState} (op : Op) (choice : op.Choice)
      (later : Later (state.perform op choice).2 after) : Later state after

namespace ClientState.Later

/-- Steps of others may follow steps of others. -/
theorem trans {state middle last : ClientState} (first : Later state middle)
    (second : Later middle last) : Later state last := by
  -- The first steps come first, so the induction is over them.
  induction first with
  | refl state => exact second
  | step op choice _ ih => exact .step op choice (ih second)

/-- One step of another program. -/
theorem single (state : ClientState) (op : Op) (choice : op.Choice) :
    Later state (state.perform op choice).2 :=
  .step op choice (.refl _)

/-- What every step keeps, any steps of others keep. -/
theorem keeps {invariant : ClientState → Prop}
    (kept : ∀ state op choice, invariant state → invariant (ClientState.perform state op choice).2)
    {state after : ClientState} (later : Later state after) (first : invariant state) :
    invariant after := by
  -- Each step keeps it, and there are only so many.
  induction later with
  | refl state => exact first
  | step op choice _ ih => exact ih (kept _ op choice first)

end ClientState.Later

namespace Program

open ClientState (Later)

variable {α β : Type} {state now last : ClientState} {front back trace : Trace}

/-- A program that others run beside has taken some steps; what is left of it goes on from the
state that it has come to, which others may have changed by now. -/
inductive Midway : Program α → ClientState → Trace → Program α → ClientState → Prop where
  -- It has not gone on yet; others may have.
  | here (program : Program α) {state now : ClientState} (meanwhile : Later state now) :
      Midway program state [] program now
  -- Others move before each of its steps, and the choice is made for that step alone.
  | ask {op : Op} {next : op.Answer → Program α} {state before now : ClientState} {front : Trace}
      {rest : Program α} (meanwhile : Later state before) (choice : op.Choice)
      (after : Midway (next (before.perform op choice).1) (before.perform op choice).2 front rest
        now) :
      Midway (ask op next) state (⟨op, (before.perform op choice).1⟩ :: front) rest now

/-- Takes some steps of a program that runs alone, and gives what it has done, what is left of it and
the state that it has come to. -/
def advance (surroundings : (op : Op) → op.Choice) :
    Nat → Program α → ClientState → Trace × Program α × ClientState
  -- Nothing changes the state between two steps.
  | count + 1, ask op next, state =>
    let (answer, after) := state.perform op (surroundings op)
    let (front, rest, now) := advance surroundings count (next answer) after
    (⟨op, answer⟩ :: front, rest, now)
  -- A program that is over, or has had its steps, stays as it is.
  | _, program, state => ([], program, state)

/-- A program that has been advanced is midway. -/
theorem midway_advance (surroundings : (op : Op) → op.Choice) (count : Nat) (program : Program α)
    (state : ClientState) :
    Midway program state (advance surroundings count program state).1
      (advance surroundings count program state).2.1
      (advance surroundings count program state).2.2 := by
  induction count generalizing program state with
  | zero => exact .here _ (.refl _)
  | succ count ih =>
    cases program with
    | done value => exact .here _ (.refl _)
    -- Nobody else moves between the steps.
    | ask op next => exact .ask (.refl _) (surroundings op) (ih _ _)

/-- A run is a run as well where others may do more. -/
theorem Amid.mono {others more : ClientState → ClientState → Prop} {program : Program α} {value : α}
    (run : Amid others program state trace value last)
    (reason : ∀ state after, others state after → more state after) :
    Amid more program state trace value last := by
  -- The reasons of the others are the only thing that changes.
  induction run with
  | done value state => exact .done value state
  | ask meanwhile choice _ ih => exact .ask (reason _ _ meanwhile) choice ih

/-- A run without others is a run with others that do nothing. -/
theorem Alone.amid {program : Program α} {value : α} (run : Alone program state trace value last) :
    Amid Later program state trace value last :=
  Amid.mono run fun state _ same => same ▸ .refl state

/-- A program that has taken no steps is still to be run as a whole. -/
theorem Midway.eq_of_nil {program rest : Program α} (midway : Midway program state [] rest now) :
    rest = program := by
  -- With a step taken the trace would not be empty.
  cases midway
  rfl

/-- A program that has a step to take takes it. -/
theorem Amid.unfinished {others : ClientState → ClientState → Prop} {op : Op}
    {next : op.Answer → Program α} {value : α}
    (run : Amid others (Program.ask op next) state trace value last) : trace ≠ [] := by
  cases run
  simp

/-- Others may go on before the program does. -/
theorem Midway.meanwhile {program rest : Program α} {later : ClientState}
    (midway : Midway program state front rest now) (others : Later now later) :
    Midway program state front rest later := by
  induction midway with
  | here program before => exact .here program (before.trans others)
  -- They join what others have done at the cut already.
  | ask before choice _ ih => exact .ask before choice (ih others)

/-- What others do between two steps may be put off to the second one. -/
theorem Amid.meanwhile {program : Program α} {value : α} {now : ClientState}
    (others : Later state now) (run : Amid Later program now trace value last) :
    trace ≠ [] → Amid Later program state trace value last := by
  intro unfinished
  cases run with
  | done value state => exact absurd rfl unfinished
  -- What others have done so far joins what they do before the first step.
  | ask before choice after => exact .ask (others.trans before) choice after

/-- A run that is cut in two is one run. -/
theorem Midway.amid {program rest : Program α} {value : α}
    (midway : Midway program state front rest now) (run : Amid Later rest now back value last)
    (unfinished : back ≠ []) : Amid Later program state (front ++ back) value last := by
  -- The steps of others at the cut are counted with the first step behind it, so there has to be one.
  induction midway with
  | here program others => exact run.meanwhile others unfinished
  | ask before choice _ ih => exact .ask before choice (ih run)

/-- A program that was cut while another one was to follow was cut in the first or in the second. -/
theorem midway_bind {program : Program α} {follow : α → Program β} {rest : Program β}
    (midway : Midway (bind program follow) state front rest now) :
    (∃ op next, rest = bind (ask op next) follow ∧
      Midway program state front (ask op next) now) ∨
    ∃ first second value middle, front = first ++ second ∧
      Amid Later program state first value middle ∧
      Midway (follow value) middle second rest now := by
  -- Along the first program: as long as it has steps the cut may be at the next one, and once it is
  -- over what is left of the trace belongs to the second.
  induction program generalizing state front with
  | done value => exact .inr ⟨[], front, value, state, rfl, .done value state, midway⟩
  | ask op next ih =>
    cases midway with
    | here _ others => exact .inl ⟨op, next, rfl, .here _ others⟩
    | ask others choice after =>
      -- After its first step the program is cut as what is left of it is.
      rcases ih _ after with ⟨later, rest, same, inside⟩ | ⟨first, second, value, middle, rfl, whole, begun⟩
      · exact .inl ⟨later, rest, same, .ask others choice inside⟩
      · exact .inr ⟨_ :: first, second, value, middle, rfl, .ask others choice whole, begun⟩

/-- What every step keeps holds wherever a program is cut. -/
theorem Midway.keeps {invariant : ClientState → Prop}
    (kept : ∀ state op choice, invariant state → invariant (ClientState.perform state op choice).2)
    {program rest : Program α} (midway : Midway program state front rest now)
    (first : invariant state) : invariant now := by
  -- What was before the first step, what others did and the step itself all keep it.
  induction midway with
  | here program others => exact others.keeps kept first
  | ask others choice _ ih => exact ih (kept _ _ choice (others.keeps kept first))

/-- What every step keeps holds at the end of a run. -/
theorem Amid.keeps {invariant : ClientState → Prop}
    (kept : ∀ state op choice, invariant state → invariant (ClientState.perform state op choice).2)
    {program : Program α} {value : α} (run : Amid Later program state trace value last)
    (first : invariant state) : invariant last := by
  -- So it is for a whole run, up to its last step.
  induction run with
  | done value state => exact first
  | ask others choice _ ih => exact ih (kept _ _ choice (others.keeps kept first))

/-- A program ends with a value as required, whatever is answered, as long as the shared state is as
assumed at every step. -/
def YieldsWhile (assumed : ClientState → Prop) (required : α → Prop) : Program α → Prop
  | done value => required value
  | ask op next => ∀ (state : ClientState) (choice : op.Choice), assumed state →
      YieldsWhile assumed required (next (state.perform op choice).1)

/-- Programs in a row end as required if each starts from what the last one ended with. -/
theorem YieldsWhile.bind {assumed : ClientState → Prop} {middle : α → Prop} {required : β → Prop}
    {program : Program α} {follow : α → Program β} (first : program.YieldsWhile assumed middle)
    (second : ∀ value, middle value → (follow value).YieldsWhile assumed required) :
    (Program.bind program follow).YieldsWhile assumed required := by
  induction program with
  | done value => exact second value first
  -- The answers lead on in the first program.
  | ask op next ih => exact fun state choice holds => ih _ (first state choice holds)

/-- What a program yields anyway, it yields under any assumption. -/
theorem Yields.yieldsWhile {required : α → Prop} {program : Program α}
    (yields : program.Yields required) (assumed : ClientState → Prop) :
    program.YieldsWhile assumed required := by
  induction program with
  | done value => exact yields
  | ask op next ih => exact fun state choice _ => ih _ (yields state choice)

/-- A run from a state as assumed ends as required if no step breaks the assumption. -/
theorem Amid.yieldsWhile {assumed : ClientState → Prop} {required : α → Prop}
    (kept : ∀ state op choice, assumed state → assumed (ClientState.perform state op choice).2)
    {program : Program α} {value : α} (run : Amid Later program state trace value last)
    (holds : assumed state) (yields : program.YieldsWhile assumed required) : required value := by
  induction run with
  | done value state => exact yields
  | ask others choice _ ih =>
    -- Others move first, and the assumption has to outlast them before the program may use it.
    have holds := others.keeps kept holds
    exact ih (kept _ _ choice holds) (yields _ choice holds)

end Program

end RedisCluster
