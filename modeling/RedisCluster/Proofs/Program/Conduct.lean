import RedisCluster.Interleaving
import RedisCluster.Program.Trace

/-! Programs that may take something for granted about their answers, and keep to certain steps in
return. -/

namespace RedisCluster

/-- What is asked of the steps of a program and what it may rely on, after what it has done so far. -/
structure Rules where
  allowed : Trace → Op → Prop
  granted : Trace → Exchange → Prop

variable {α β : Type} {rules : Rules}

/-- As long as its answers are as granted, a program keeps to what is allowed and ends as required. -/
def Program.Conducts (rules : Rules) (required : Trace → α → Prop) : Program α → Trace → Prop
  | done value, past => required past value
  | ask op next, past => rules.allowed past op ∧ ∀ answer, rules.granted past ⟨op, answer⟩ →
      Conducts rules required (next answer) (past ++ [⟨op, answer⟩])

namespace Program.Conducts

/-- Programs in a row keep to the rules if each does from where the last one ended. -/
theorem bind {middle : Trace → α → Prop} {required : Trace → β → Prop} {program : Program α}
    {follow : α → Program β} {past : Trace} (first : program.Conducts rules middle past)
    (second : ∀ now value, middle now value → (follow value).Conducts rules required now) :
    (Program.bind program follow).Conducts rules required past := by
  -- The past grows with every step, so the statement is about any past.
  induction program generalizing past with
  | done value => exact second past value first
  | ask op next ih =>
    exact ⟨first.1, fun answer granted => ih answer (first.2 answer granted)⟩

/-- A program that ends as required ends as anything that follows from it. -/
theorem mono {required weaker : Trace → α → Prop} {program : Program α} {past : Trace}
    (conducts : program.Conducts rules required past)
    (follows : ∀ now value, required now value → weaker now value) :
    program.Conducts rules weaker past := by
  induction program generalizing past with
  -- What is required is asked for at the end only, so the steps before it stay as they are.
  | done value => exact follows past value conducts
  | ask op next ih =>
    exact ⟨conducts.1, fun answer granted => ih answer (conducts.2 answer granted)⟩

/-- Whatever a program does, it adds to what was done before. -/
theorem grows {required : Trace → α → Prop} {program : Program α} {past : Trace}
    (conducts : program.Conducts rules required past) :
    program.Conducts rules (fun now value => past <+: now ∧ required now value) past := by
  -- The past at the beginning stays the same while the steps are added to it.
  have general : ∀ (program : Program α) (later : Trace), past <+: later →
      program.Conducts rules required later →
      program.Conducts rules (fun now value => past <+: now ∧ required now value) later := by
    intro program
    induction program with
    -- At the end the past has grown from the first one.
    | done value => exact fun later before conducts => ⟨before, conducts⟩
    | ask op next ih =>
      exact fun later before conducts => ⟨conducts.1, fun answer granted =>
        ih answer _ (before.trans (List.prefix_append later _)) (conducts.2 answer granted)⟩
  exact general program past (List.prefix_refl past) conducts

/-- Programs in a row keep to the rules if each does from where the last one ended, which is behind
everything that was done before. -/
theorem follow {middle : Trace → α → Prop} {required : Trace → β → Prop} {program : Program α}
    {follow : α → Program β} {past : Trace} (first : program.Conducts rules middle past)
    (second : ∀ now value, past <+: now → middle now value →
      (follow value).Conducts rules required now) :
    (Program.bind program follow).Conducts rules required past :=
  first.grows.bind fun now value ⟨before, ended⟩ => second now value before ended

variable {others : ClientState → ClientState → Prop} {required : Trace → α → Prop}
  {program : Program α} {past trace : Trace} {value : α} {state last : ClientState}

/-- If nothing is asked of the answers, every run ends as required. -/
theorem required_of_amid (conducts : program.Conducts rules required past)
    (granted : ∀ past exchange, rules.granted past exchange)
    (run : Program.Amid others program state trace value last) : required (past ++ trace) value := by
  -- The answers of the run are granted like any others.
  induction run generalizing past with
  | done value state =>
    rw [List.append_nil]
    exact conducts
  | ask meanwhile choice after ih =>
    have ended := ih (conducts.2 _ (granted past _))
    rwa [List.append_assoc] at ended

/-- What every step that is allowed from now on keeps, a run without others keeps. -/
theorem keeps (invariant : ClientState → Prop) (conducts : program.Conducts rules required past)
    (granted : ∀ past exchange, rules.granted past exchange)
    (run : Program.Alone program state trace value last)
    (kept : ∀ (later : Trace) (state : ClientState) (op : Op) (choice : op.Choice),
      rules.allowed (past ++ later) op → invariant state → invariant (state.perform op choice).2)
    (holds : invariant state) : invariant last := by
  induction run generalizing past with
  | done value state => exact holds
  | @ask op next state before last rest value meanwhile choice after ih =>
    -- Nobody else took a step before this one.
    obtain rfl : state = before := meanwhile
    have allowed : rules.allowed (past ++ []) op := by simpa using conducts.1
    refine ih (conducts.2 _ (granted past _)) (fun later state op choice allowed => ?_)
      -- The step is allowed now, and what comes later is allowed later.
      (kept [] state op choice allowed holds)
    rw [List.append_assoc] at allowed
    exact kept _ state op choice allowed

end Program.Conducts

/-- What is left of a task keeps to the rules, and what has come of it is as required. -/
def Task.Conducts (rules : Rules) (required : Trace → α → Prop) (past : Trace) : Task α → Prop
  | running rest _ => rest.Conducts rules required past
  | finished value => required past value
  | cancelled => False

end RedisCluster
