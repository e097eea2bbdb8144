import RedisCluster.Proofs.Client.Business
import RedisCluster.Proofs.Discovery.Reload
import RedisCluster.Proofs.Dispatcher.Retry

/-! What answers say about the routing table, and that a rediscovery writes down what it has been told
and nothing else. -/

namespace RedisCluster

namespace Signal

/-- The redirect that the outcome of a request calls for, if it calls for one. -/
def redirect? : Except ClientError Signal → Option Signal
  | .ok (.moved slot target) => some (.moved slot target)
  | .ok (.ask slot target) => some (.ask slot target)
  | _ => none

/-- What a redirect says about the owner of a slot: a permanent one speaks of the slot that it names,
and a temporary one of none. -/
def word? (translator : Translator) (slot : Nat) : Signal → Option (Option Endpoint)
  -- Of a node that is named for another slot nothing is learned about this one.
  | moved named target => if named = slot then some (some (translator.apply target)) else none
  | _ => none

/-- The node that a redirect names, at the address that the client can reach. -/
def named (translator : Translator) : Signal → List Endpoint
  | moved _ target | ask _ target => [translator.apply target]
  | _ => []

end Signal

/-- The routing table was rebuilt from the layout of some node. -/
def Rediscovery.isRefreshed : Rediscovery → Bool
  | refreshed _ => true
  | _ => false

/-- A step that brings in an answer from which the routing table may learn. -/
def Op.informs : Op → Bool
  | .answer _ (.command _) | .answer _ .asking | .answer _ .layout => true
  | _ => false

/-- A step that leaves the routing table alone and brings in nothing that it may learn. -/
def Op.isAside (op : Op) : Bool :=
  op.isSteady && !op.informs

/-- Who looks for a node that is alive leaves the table alone and learns nothing for it. -/
theorem Op.aside_of_sounding {op : Op} (sounding : op.isSounding = true) : op.isAside = true := by
  cases op with
  -- Of all answers only those to pings are for this.
  | answer lease request => cases request <;> first | rfl | simp [isSounding] at sounding
  | _ => first | rfl | simp [isSounding] at sounding

namespace Exchange

/-- The redirect that came in for a command or for `ASKING`. -/
def redirect? : Exchange → Option Signal
  | ⟨.answer lease (.command _), answer⟩ =>
    Signal.redirect? (Redirect.classify answer lease.endpoint)
  | ⟨.answer lease .asking, answer⟩ => Signal.redirect? (Redirect.classify answer lease.endpoint)
  | _ => none

/-- The layout that came in, its masters at the addresses that the client can reach. -/
def layout? (translator : Translator) : Exchange → Option (List SlotRange)
  | ⟨.answer lease .layout, answer⟩ =>
    (answer.bind (Discovery.layout translator lease.endpoint)).toOption
  | _ => none

/-- What a step says about the owner of a slot, if it says anything: the node, or that there is none. A
layout speaks of every slot. -/
def word? (translator : Translator) (slot : Nat) (exchange : Exchange) : Option (Option Endpoint) :=
  match exchange.redirect? with
  | some redirect => redirect.word? translator slot
  | none => (exchange.layout? translator).map (Layout.master? slot)

/-- The nodes that a step names: the target of a redirect, or the masters of a layout. -/
def named (translator : Translator) (exchange : Exchange) : List Endpoint :=
  match exchange.redirect? with
  | some redirect => redirect.named translator
  | none => ((exchange.layout? translator).getD []).map (·.master)

end Exchange

namespace Trace

variable (translator : Translator) (slot : Nat) (front back trace : Trace)

/-- The redirects that came in, in order. -/
def redirects (trace : Trace) : List Signal :=
  trace.filterMap Exchange.redirect?

/-- The layouts that came in, in order. -/
def layouts (translator : Translator) (trace : Trace) : List (List SlotRange) :=
  trace.filterMap (Exchange.layout? translator)

/-- What a trace says last about the owner of a slot. -/
def word? (translator : Translator) (slot : Nat) (trace : Trace) : Option (Option Endpoint) :=
  (trace.filterMap (Exchange.word? translator slot)).getLast?

/-- The nodes that a trace names. -/
def named (translator : Translator) (trace : Trace) : List Endpoint :=
  trace.flatMap (Exchange.named translator)

@[simp] theorem redirects_append : redirects (front ++ back) = redirects front ++ redirects back :=
  List.filterMap_append

@[simp] theorem layouts_append :
    layouts translator (front ++ back) = layouts translator front ++ layouts translator back :=
  List.filterMap_append

@[simp] theorem word?_append : word? translator slot (front ++ back) =
    (word? translator slot back).or (word? translator slot front) := by
  -- What came in later is looked at first.
  simp only [word?, List.filterMap_append, List.getLast?_append]

@[simp] theorem named_append :
    named translator (front ++ back) = named translator front ++ named translator back :=
  List.flatMap_append

/-- Nothing came in from which the routing table may learn. -/
def Uninformed (trace : Trace) : Prop :=
  ∀ exchange ∈ trace, exchange.op.informs = false

namespace Uninformed

variable {trace}

/-- A step that brings in nothing is uninformed on its own. -/
theorem single {exchange : Exchange} (silent : exchange.op.informs = false) :
    Uninformed [exchange] :=
  List.forall_mem_singleton.2 silent

/-- Where nothing comes in, no redirect does. -/
theorem redirects (uninformed : trace.Uninformed) : trace.redirects = [] := by
  refine List.filterMap_eq_nil_iff.2 fun exchange member => ?_
  have silent := uninformed exchange member
  rcases exchange with ⟨op, answer⟩
  cases op with
  -- An answer to a ping brings in nothing.
  | answer lease request => cases request <;> first | rfl | simp [Op.informs] at silent
  | _ => rfl

/-- Where nothing comes in, no layout does. -/
theorem layouts (uninformed : trace.Uninformed) : trace.layouts translator = [] := by
  refine List.filterMap_eq_nil_iff.2 fun exchange member => ?_
  have silent := uninformed exchange member
  rcases exchange with ⟨op, answer⟩
  cases op with
  -- An answer to a command is no layout, and one to a request for the layout would inform.
  | answer lease request => cases request <;> first | rfl | simp [Op.informs] at silent
  | _ => rfl

end Uninformed

variable {translator slot trace}

/-- Without redirects, the nodes that a trace names are the masters of its layouts. -/
theorem named_of_unreferred (unreferred : trace.redirects = []) :
    trace.named translator = (trace.layouts translator).flatMap (·.map (·.master)) := by
  -- Each step names the masters of its layout, or nobody.
  induction trace with
  | nil => rfl
  | cons exchange rest ih =>
    obtain ⟨first, others⟩ := List.forall_mem_cons.1 (List.filterMap_eq_nil_iff.1 unreferred)
    have later := ih (List.filterMap_eq_nil_iff.2 others)
    -- A step brings in one layout or none.
    cases mapped : exchange.layout? translator with
    | none => simpa [named, layouts, Exchange.named, first, mapped] using later
    | some ranges => simpa [named, layouts, Exchange.named, first, mapped] using later

/-- Without redirects, the last layout has the last word on every slot. -/
theorem word?_of_unreferred (unreferred : trace.redirects = []) :
    trace.word? translator slot =
      (trace.layouts translator).getLast?.map (Layout.master? slot) := by
  have spoken : trace.filterMap (Exchange.word? translator slot) =
      (trace.layouts translator).map (Layout.master? slot) := by
    -- What is spoken is what is heard of layouts, step by step.
    induction trace with
    | nil => rfl
    | cons exchange rest ih =>
      obtain ⟨first, others⟩ := List.forall_mem_cons.1 (List.filterMap_eq_nil_iff.1 unreferred)
      have later := ih (List.filterMap_eq_nil_iff.2 others)
      cases mapped : exchange.layout? translator with
      | none => simpa [layouts, Exchange.word?, first, mapped] using later
      | some ranges => simpa [layouts, Exchange.word?, first, mapped] using later
  rw [word?, spoken, List.getLast?_map]

/-- Without layouts, the nodes that a trace names are those of its redirects. -/
theorem named_of_unmapped (unmapped : trace.layouts translator = []) :
    trace.named translator = trace.redirects.flatMap (Signal.named translator) := by
  induction trace with
  -- No layout came in, so each step names the target of its redirect, or nobody.
  | nil => rfl
  | cons exchange rest ih =>
    obtain ⟨first, others⟩ := List.forall_mem_cons.1 (List.filterMap_eq_nil_iff.1 unmapped)
    have later := ih (List.filterMap_eq_nil_iff.2 others)
    cases referred : exchange.redirect? with
    | none => simpa [named, redirects, Exchange.named, first, referred] using later
    | some redirect => simpa [named, redirects, Exchange.named, first, referred] using later

/-- Without layouts, the last redirect that speaks of a slot has the last word on it. -/
theorem word?_of_unmapped (unmapped : trace.layouts translator = []) :
    trace.word? translator slot =
      (trace.redirects.filterMap (Signal.word? translator slot)).getLast? := by
  have spoken : trace.filterMap (Exchange.word? translator slot) =
      trace.redirects.filterMap (Signal.word? translator slot) := by
    induction trace with
    | nil => rfl
    | cons exchange rest ih =>
      obtain ⟨first, others⟩ := List.forall_mem_cons.1 (List.filterMap_eq_nil_iff.1 unmapped)
      have later := ih (List.filterMap_eq_nil_iff.2 others)
      cases referred : exchange.redirect? with
      | none => simpa [redirects, Exchange.word?, first, referred] using later
      | some redirect =>
        -- A redirect says something about the slot or nothing.
        cases said : redirect.word? translator slot with
        | none => simpa [redirects, Exchange.word?, referred, said] using later
        | some word => simpa [redirects, Exchange.word?, referred, said] using later
  rw [word?, spoken]

/-- A trace without redirects has no permanent ones. -/
theorem unmoved_of_unreferred (unreferred : trace.redirects = []) (moved : Nat)
    (target : Endpoint) : Signal.moved moved target ∉ trace.redirects := by
  simp [unreferred]

/-- A trace without permanent redirects and layouts says nothing about any slot. -/
theorem word?_eq_none (unmoved : ∀ moved target, Signal.moved moved target ∉ trace.redirects)
    (unmapped : trace.layouts translator = []) : trace.word? translator slot = none := by
  have silent : trace.redirects.filterMap (Signal.word? translator slot) = [] := by
    refine List.filterMap_eq_nil_iff.2 fun redirect member => ?_
    -- There are no permanent redirects, and the others speak of no slot.
    cases redirect with
    | moved moved target => exact absurd member (unmoved moved target)
    | _ => rfl
  rw [word?_of_unmapped unmapped, silent, List.getLast?_nil]

end Trace

namespace Topology

variable {topology : Topology}

/-- One steady change after the other is a steady change. -/
theorem Steady.trans {before middle after : Topology} (first : Steady before middle)
    (second : Steady middle after) : Steady before after :=
  ⟨second.nodes.trans first.nodes, second.slots.trans first.slots, second.closed.trans first.closed,
    second.config.trans first.config, fun id => (second.faces id).trans (first.faces id)⟩

/-- Registering a node makes no other node known. -/
theorem mem_nodes_register {node : Endpoint} {entry : String × PoolRef}
    (member : entry ∈ (topology.register node).2.nodes) :
    entry ∈ topology.nodes ∨ entry.1 = node.nodeKey := by
  rcases register_cases topology node with ⟨_, same⟩ | ⟨_, _, _, same⟩ | ⟨_, _, grown⟩
  -- Neither a refusal nor a known node adds an entry.
  · exact .inl (by rwa [same] at member)
  · exact .inl (by rwa [same] at member)
  · rw [grown] at member
    rcases List.mem_append.1 member with old | new
    · exact .inl old
    -- The only new entry has the key of the node.
    · exact .inr (by rw [List.mem_singleton.1 new])

/-- Giving slots to a node makes no other node known. -/
theorem mem_nodes_assign {slots : List Nat} {node : Endpoint} {entry : String × PoolRef}
    (member : entry ∈ (topology.assign slots node).2.nodes) :
    entry ∈ topology.nodes ∨ entry.1 = node.nodeKey := by
  rcases assign_cases topology slots node with ⟨_, same⟩ | ⟨pool, grown, registered, same⟩
  · exact .inl (by rwa [same] at member)
  · have grows : (topology.register node).2 = grown := by rw [registered]
    rw [same] at member
    exact mem_nodes_register (grows ▸ member)

/-- Loading a layout makes none but its masters known. -/
theorem mem_nodes_rebuild {ranges : List SlotRange} {entry : String × PoolRef}
    (member : entry ∈ (topology.rebuild ranges).2.nodes) :
    entry ∈ topology.nodes ∨ ∃ master ∈ ranges.map (·.master), entry.1 = master.nodeKey := by
  unfold rebuild at member
  split at member
  -- A closed table takes nothing in.
  · exact .inl member
  · -- The ranges are placed one after the other, so the table before them is any.
    have placed : ∀ (ranges : List SlotRange) (table : Topology),
        entry ∈ (ranges.foldl place table).nodes →
          entry ∈ table.nodes ∨ ∃ master ∈ ranges.map (·.master), entry.1 = master.nodeKey := by
      intro ranges
      induction ranges with
      | nil => exact fun _ member => .inl member
      | cons range rest ih =>
        intro table member
        rcases ih _ member with before | ⟨master, listed, key⟩
        · rcases mem_nodes_assign before with old | key
          · exact .inl old
          · exact .inr ⟨range.master, List.mem_cons_self, key⟩
        -- It is the master of a later range.
        · exact .inr ⟨master, List.mem_cons_of_mem _ listed, key⟩
    exact placed ranges topology.clearSlots member

end Topology

namespace Program

variable {α : Type} {program : Program α} {state last : ClientState} {trace : Trace} {value : α}

/-- A run of steady steps without others leaves the table alone. -/
theorem steady_of_alone (run : Alone program state trace value last)
    (steady : program.Within fun op => op.isSteady = true) :
    state.topology.Steady last.topology := by
  induction run with
  | done value state => exact .refl _
  | ask same choice _ ih =>
    subst same
    -- The first step is steady, and so is what comes behind it.
    exact (ClientState.steady_perform steady.1 _ choice).trans (ih (steady.2 _))

/-- A run of steps aside without others leaves the table alone, and brings in nothing that it may
learn. -/
theorem aside_of_alone (run : Alone program state trace value last)
    (aside : program.Within fun op => op.isAside = true) :
    state.topology.Steady last.topology ∧ trace.Uninformed := by
  have steady : program.Within fun op => op.isSteady = true :=
    aside.mono fun op both => (Bool.and_eq_true_iff.1 both).1
  have silent : program.Within fun op => op.informs = false :=
    -- To stand aside is to be steady and to bring in nothing.
    aside.mono fun op both => by simpa using (Bool.and_eq_true_iff.1 both).2
  exact ⟨steady_of_alone run steady, run.within silent⟩

end Program

/-- What a trace has told is what has become of the routing table: every slot that it has spoken of
belongs to the node that it has named last, every other slot has the owner that it had, no node is
forgotten, and none is known but those that were known before or have been named. -/
structure Recorded (translator : Translator) (told : List Endpoint) (state : ClientState)
    (trace : Trace) (last : ClientState) : Prop where
  consistent : last.topology.Consistent
  closed : last.topology.closed = state.topology.closed
  kept : state.topology.nodes ⊆ last.topology.nodes
  known : ∀ entry ∈ last.topology.nodes, entry ∈ state.topology.nodes ∨
    ∃ node ∈ told ++ trace.named translator, entry.1 = node.nodeKey
  owners : ∀ slot, slot < slotCount →
    match trace.word? translator slot with
    | none => last.topology.owner slot = state.topology.owner slot
    | some none => last.topology.owner slot = none
    | some (some node) => last.topology.OwnedBy slot node

namespace Recorded

variable {translator : Translator} {told : List Endpoint} {state middle last : ClientState}
  {front back trace : Trace}

/-- Steady steps write nothing down, so they record a trace that tells of no owner. -/
theorem of_steady (consistent : state.topology.Consistent)
    (steady : state.topology.Steady last.topology)
    (unmoved : ∀ moved target, Signal.moved moved target ∉ trace.redirects)
    (unmapped : trace.layouts translator = []) : Recorded translator told state trace last where
  consistent := steady.consistent consistent
  closed := steady.closed
  kept := steady.nodes ▸ List.Subset.refl _
  known entry member := .inl (steady.nodes ▸ member)
  owners slot inside := by
    -- Nothing was said of the slot, so its owner must be the old one.
    rw [Trace.word?_eq_none unmoved unmapped]
    exact steady.owner slot

/-- A layout that came in is loaded as a whole. -/
theorem of_rebuild (consistent : state.topology.Consistent)
    (accepting : state.topology.closed = false) {ranges : List SlotRange} {before : ClientState}
    (steady : state.topology.Steady before.topology) (unreferred : trace.redirects = [])
    (mapped : trace.layouts translator = [ranges]) :
    Recorded translator told state trace (before.perform (.rebuild ranges) ()).2 := by
  -- Up to the loading the table was as good as at first.
  have consistent := steady.consistent consistent
  have accepting : before.topology.closed = false := steady.closed.trans accepting
  obtain ⟨_, still, nodes, _, _⟩ := Topology.rebuild_open accepting consistent ranges
  refine ⟨consistent.rebuild ranges, still.trans ?_, ?_, fun entry member => ?_,
    fun slot inside => ?_⟩
  · rw [← steady.closed, accepting]
  · rw [← steady.nodes]
    exact nodes
  -- The layout is all that was heard, so its masters are all that was named.
  · rw [Trace.named_of_unreferred unreferred, mapped, ← steady.nodes]
    refine (Topology.mem_nodes_rebuild member).imp_right fun ⟨master, listed, key⟩ => ?_
    exact ⟨master, List.mem_append_right _ (by simpa using listed), key⟩
  · have owners := Topology.owners_rebuild accepting consistent ranges inside
    rw [Trace.word?_of_unreferred unreferred, mapped, List.getLast?_singleton, Option.map_some]
    cases given : Layout.master? slot ranges with
    -- What the layout does not speak of has lost its owner.
    | none =>
      rw [given] at owners
      exact owners
    | some master =>
      rw [given] at owners
      exact owners

/-- A permanent redirect that came in is written to the table. -/
theorem of_assign (consistent : state.topology.Consistent)
    (accepting : state.topology.closed = false) {moved : Nat} {target : Endpoint}
    {before : ClientState} (steady : state.topology.Steady before.topology)
    (referred : trace.redirects = [.moved moved target])
    (unmapped : trace.layouts translator = []) :
    Recorded translator told state trace
      (before.perform (.assign [moved] (translator.apply target)) ()).2 := by
  have consistent := steady.consistent consistent
  have accepting : before.topology.closed = false := steady.closed.trans accepting
  -- The table is open, so the redirect is not refused.
  obtain ⟨still, nodes, _, owners⟩ :=
    Topology.assign_open accepting consistent [moved] (translator.apply target)
  refine ⟨consistent.assign _ _, still.trans ?_, ?_, fun entry member => ?_, fun slot inside => ?_⟩
  · rw [← steady.closed, accepting]
  · rw [← steady.nodes]
    exact nodes
  -- The redirect names its target, and the table learns of no other node.
  · rw [Trace.named_of_unmapped unmapped, referred, ← steady.nodes]
    refine (Topology.mem_nodes_assign member).imp_right fun key => ?_
    exact ⟨translator.apply target, List.mem_append_right _ List.mem_cons_self, key⟩
  · have given := owners slot inside
    rw [Trace.word?_of_unmapped unmapped, referred, List.filterMap_cons, Signal.word?]
    -- The redirect speaks of the slot that it names, and of no other.
    by_cases same : moved = slot
    · rw [if_pos same]
      rw [if_pos (List.mem_singleton.2 same.symm)] at given
      exact given
    · rw [if_neg same]
      rw [if_neg (fun listed => same (List.mem_singleton.1 listed).symm)] at given
      exact given.trans (steady.owner slot)

/-- A node that was named before may be registered. -/
theorem of_register (consistent : state.topology.Consistent) (node : Endpoint) :
    Recorded translator [node] state [⟨.register node, (state.perform (.register node) ()).1⟩]
      (state.perform (.register node) ()).2 where
  consistent := consistent.register node
  closed := Topology.Tidy.closed_register state.topology node
  kept := Topology.nodes_register state.topology node
  known entry member := (Topology.mem_nodes_register member).imp_right fun key =>
    ⟨node, List.mem_cons_self, key⟩
  owners slot inside := by
    -- Registering leaves the owners alone, and the trace says nothing of them.
    show (state.topology.register node).2.owner slot = state.topology.owner slot
    rcases Topology.register_cases state.topology node with ⟨_, same⟩ | ⟨_, _, _, same⟩ | ⟨_, _, same⟩
    · rw [same]
    · rw [same]
    · rw [same]
      rfl

/-- What was told before counts for what is told later. -/
theorem trans (first : Recorded translator told state front middle)
    (second : Recorded translator (told ++ front.named translator) middle back last) :
    Recorded translator told state (front ++ back) last where
  consistent := second.consistent
  closed := second.closed.trans first.closed
  kept := List.Subset.trans first.kept second.kept
  known entry member := by
    rw [Trace.named_append, ← List.append_assoc]
    -- A node that is known in the end was known in between, or was named since.
    rcases second.known entry member with before | named
    · exact (first.known entry before).imp_right fun ⟨node, listed, key⟩ =>
        ⟨node, List.mem_append_left _ listed, key⟩
    · exact .inr named
  owners slot inside := by
    have early := first.owners slot inside
    have late := second.owners slot inside
    rw [Trace.word?_append]
    -- The later trace has the last word if it has one at all.
    cases spoken : back.word? translator slot with
    | some word =>
      rw [spoken] at late
      rw [Option.some_or]
      cases word <;> exact late
    | none =>
      rw [spoken] at late
      rw [Option.none_or]
      split
      · rename_i silent
        rw [silent] at early
        exact late.trans early
      · rename_i silent
        rw [silent] at early
        exact late.trans early
      · rename_i node silent
        rw [silent] at early
        exact early.of_owner late

/-- Who may have been told more is told no less. -/
theorem mono {more : List Endpoint} (recorded : Recorded translator told state trace last)
    (within : told ⊆ more) : Recorded translator more state trace last :=
  { recorded with
    known := fun entry member => (recorded.known entry member).imp_right fun ⟨node, listed, key⟩ =>
      ⟨node, List.mem_append.2 ((List.mem_append.1 listed).imp_left fun early => within early), key⟩ }

end Recorded

namespace Discovery

variable {translator : Translator} {state last : ClientState} {steps : Trace}

/-- A node that is asked for the layout is reached by steps aside, and left by such. -/
theorem reading_aside (pool : PoolRef) :
    (Program.acquire pool).Within (fun op => op.isAside = true) ∧
      ∀ lease, (Program.release lease).Within fun op => op.isAside = true :=
  ⟨Program.acquire_within pool rfl (fun _ => rfl) (fun _ => rfl) fun _ => rfl,
    fun lease => Program.release_within lease fun _ _ => rfl⟩

/-- Asking one node for the layout writes down what the node has reported, and a layout that it has
reported is loaded. -/
theorem refreshFrom_recorded (told : List Endpoint) {pool : PoolRef} {outcome : Except ClientError Unit}
    (consistent : state.topology.Consistent) (accepting : state.topology.closed = false)
    (run : Program.Alone (refreshFrom translator pool) state steps outcome last) :
    Recorded translator told state steps last ∧
      (steps.layouts translator).length = outcome.isOk.toNat := by
  obtain ⟨aside, released⟩ := reading_aside pool
  obtain ⟨acquiring, rest, acquired, middle, rfl, acquire, reading⟩ := Program.amid_bind_iff.1 run
  obtain ⟨first, uninformed⟩ := Program.aside_of_alone acquire aside
  cases acquired with
  | error error =>
    obtain ⟨rfl, rfl, rfl⟩ := Program.amid_done_iff.1 reading
    rw [List.append_nil]
    exact ⟨.of_steady consistent first (Trace.unmoved_of_unreferred uninformed.redirects)
      (uninformed.layouts translator), by rw [uninformed.layouts]; rfl⟩
  | ok lease =>
    have there := Program.lease_of_acquire acquire
    obtain ⟨asking, rest, reply, asked, rfl, request, giving⟩ := Program.amid_bind_iff.1 reading
    obtain ⟨releasing, rest, _, left, rfl, release, judging⟩ := Program.amid_bind_iff.1 giving
    have requested : (Program.request lease .layout).Within fun op => op.isSteady = true :=
      Program.request_within lease _ rfl rfl
    have second := Program.steady_of_alone request requested
    obtain ⟨third, silent⟩ := Program.aside_of_alone release (released lease)
    have steady := (first.trans second).trans third
    obtain rfl := Program.steps_of_request request
    -- The report of the node is all that comes in.
    have unreferred : ∀ rest : Trace, rest.redirects = [] → Trace.redirects (acquiring ++
        ([⟨.send lease .layout, ()⟩, ⟨.answer lease .layout, reply⟩] ++ (releasing ++ rest))) = [] := by
      intro rest none
      simp only [Trace.redirects_append, uninformed.redirects, silent.redirects, none]
      rfl
    have heard : ∀ rest : Trace, rest.layouts translator = [] → Trace.layouts translator (acquiring ++
        ([⟨.send lease .layout, ()⟩, ⟨.answer lease .layout, reply⟩] ++ (releasing ++ rest))) =
          (reply.bind (layout translator pool.endpoint)).toOption.toList := by
      intro rest none
      simp only [Trace.layouts_append, uninformed.layouts, silent.layouts, none, ← there]
      simp only [Trace.layouts, List.filterMap_cons, List.filterMap_nil, Exchange.layout?]
      cases (reply.bind (layout translator lease.endpoint)).toOption <;> rfl
    cases read : reply.bind (layout translator pool.endpoint) with
    | error error =>
      rw [read] at judging heard
      obtain ⟨rfl, rfl, rfl⟩ := Program.amid_done_iff.1 judging
      have unmapped := heard [] rfl
      exact ⟨.of_steady consistent steady (Trace.unmoved_of_unreferred (unreferred [] rfl)) unmapped,
        by rw [unmapped]; rfl⟩
    | ok ranges =>
      rw [read] at judging heard
      obtain ⟨_, rest, rfl, loading⟩ := Program.alone_ask_iff.1 judging
      obtain ⟨rfl, rfl, rfl⟩ := Program.amid_done_iff.1 loading
      have mapped := heard [⟨.rebuild ranges, (left.perform (.rebuild ranges) ()).1⟩] rfl
      refine ⟨.of_rebuild consistent accepting steady (unreferred _ rfl) mapped, ?_⟩
      -- An open table takes in any layout.
      obtain ⟨taken, _⟩ := Topology.rebuild_open (steady.closed.trans accepting)
        (steady.consistent consistent) ranges
      have taken : (left.perform (.rebuild ranges) ()).1 = .ok () := taken
      rw [mapped, taken]
      rfl

/-- The client's own business brings in no redirect. -/
theorem unreferred_of_business {α : Type} {program : Program α} {value : α}
    (run : program.Alone state steps value last) (business : program.Business) :
    steps.redirects = [] := by
  refine List.filterMap_eq_nil_iff.2 fun exchange member => ?_
  have own := run.within business exchange member
  rcases exchange with ⟨op, answer⟩
  cases op with
  | answer lease request => cases request <;> first | rfl | simp [Op.isBusiness] at own
  | _ => rfl

/-- Nodes that are asked in turn are asked until one has reported a layout, which is written down. -/
theorem firstRefreshed_recorded (told : List Endpoint) {pools : List PoolRef} {found : Option PoolRef}
    (consistent : state.topology.Consistent) (accepting : state.topology.closed = false)
    (run : Program.Alone (firstRefreshed translator pools) state steps found last) :
    Recorded translator told state steps last ∧
      (steps.layouts translator).length = found.isSome.toNat := by
  induction pools generalizing state steps told with
  | nil =>
    obtain ⟨rfl, rfl, rfl⟩ := Program.amid_done_iff.1 run
    exact ⟨.of_steady consistent (.refl _) nofun rfl, rfl⟩
  | cons pool rest ih =>
    obtain ⟨first, others, outcome, middle, rfl, refreshed, next⟩ := Program.amid_bind_iff.1 run
    obtain ⟨recorded, mapped⟩ := refreshFrom_recorded told consistent accepting refreshed
    cases outcome with
    | ok loaded =>
      obtain ⟨rfl, rfl, rfl⟩ := Program.amid_done_iff.1 next
      rw [List.append_nil]
      exact ⟨recorded, mapped⟩
    | error error =>
      -- Nothing was loaded, so the next node finds the client as open as it was.
      obtain ⟨later, more⟩ := ih _ recorded.consistent (recorded.closed.trans accepting) next
      refine ⟨recorded.trans later, ?_⟩
      rw [Trace.layouts_append, List.length_append, mapped, more]
      exact Nat.zero_add _

/-- A pass over the nodes writes down the layout that one of them has reported. -/
theorem pass_recorded (told : List Endpoint) {preferred found : Option PoolRef}
    (consistent : state.topology.Consistent) (accepting : state.topology.closed = false)
    (run : Program.Alone (pass translator preferred) state steps found last) :
    Recorded translator told state steps last ∧
      (steps.layouts translator).length = found.isSome.toNat := by
  have others : ∀ (told : List Endpoint) {asked : Option PoolRef} {state : ClientState}
      {steps : Trace}, state.topology.Consistent → state.topology.closed = false →
      Program.Alone (askOthers translator asked) state steps found last →
        Recorded translator told state steps last ∧
          (steps.layouts translator).length = found.isSome.toNat := by
    intro told asked state steps consistent accepting run
    obtain ⟨order, rest, rfl, turns⟩ := Program.alone_ask_iff.1 run
    -- The look at the known nodes leaves the client as it is.
    have looked : Recorded translator told state
        [⟨.knownPools, (state.perform .knownPools order).1⟩] state :=
      .of_steady consistent (.refl _) (Trace.unmoved_of_unreferred rfl) rfl
    obtain ⟨recorded, mapped⟩ := firstRefreshed_recorded _ consistent accepting turns
    exact ⟨looked.trans recorded, mapped⟩
  cases preferred with
  | none => exact others told consistent accepting run
  | some pool =>
    obtain ⟨first, rest, outcome, middle, rfl, refreshed, next⟩ := Program.amid_bind_iff.1 run
    obtain ⟨recorded, mapped⟩ := refreshFrom_recorded told consistent accepting refreshed
    cases outcome with
    | ok loaded =>
      obtain ⟨rfl, rfl, rfl⟩ := Program.amid_done_iff.1 next
      rw [List.append_nil]
      exact ⟨recorded, mapped⟩
    | error error =>
      obtain ⟨later, more⟩ := others _ recorded.consistent (recorded.closed.trans accepting) next
      refine ⟨recorded.trans later, ?_⟩
      rw [Trace.layouts_append, List.length_append, mapped, more]
      exact Nat.zero_add _

/-- A rediscovery writes down the layout that one of the nodes has reported, and it has refreshed the
table exactly if there was one. -/
theorem rediscover_recorded (told : List Endpoint) {preferred : Option PoolRef} {outcome : Rediscovery}
    (consistent : state.topology.Consistent) (accepting : state.topology.closed = false)
    (run : Program.Alone (rediscover translator preferred) state steps outcome last) :
    Recorded translator told state steps last ∧
      (steps.layouts translator).length = outcome.isRefreshed.toNat := by
  obtain ⟨_, rest, rfl, started⟩ := Program.alone_ask_iff.1 run
  generalize begun : state.perform .beginRediscovery () = begin at started
  obtain ⟨answer, now⟩ := begin
  -- Neither the beginning nor the end touches the table.
  have steady : state.topology.Steady now.topology := by
    have begins : Op.beginRediscovery.isSteady = true := rfl
    simpa only [begun] using ClientState.steady_perform begins state ()
  have first : Recorded translator told state [⟨.beginRediscovery, answer⟩] now :=
    .of_steady consistent steady (Trace.unmoved_of_unreferred rfl) rfl
  cases answer with
  | false =>
    obtain ⟨rfl, rfl, rfl⟩ := Program.amid_done_iff.1 started
    exact ⟨first, rfl⟩
  | true =>
    simp only [Program.bind_done, if_pos] at started
    obtain ⟨passing, rest, found, middle, rfl, passed, ending⟩ := Program.amid_bind_iff.1 started
    obtain ⟨second, mapped⟩ := pass_recorded
      (told ++ Trace.named translator [⟨.beginRediscovery, true⟩]) first.consistent
      (steady.closed.trans accepting) passed
    obtain ⟨_, rest, rfl, ended⟩ := Program.alone_ask_iff.1 ending
    have third : Recorded translator
        (told ++ Trace.named translator [⟨.beginRediscovery, true⟩] ++ passing.named translator)
        middle [⟨.endRediscovery, ()⟩] (middle.perform .endRediscovery ()).2 :=
      .of_steady second.consistent (ClientState.steady_perform rfl middle ())
        (Trace.unmoved_of_unreferred rfl) rfl
    have whole := first.trans (second.trans third)
    have told : outcome.isRefreshed = found.isSome ∧ rest = [] ∧
        last = (middle.perform .endRediscovery ()).2 := by
      cases found with
      | none =>
        obtain ⟨rfl, rfl, rfl⟩ := Program.amid_done_iff.1 ended
        exact ⟨rfl, rfl, rfl⟩
      | some pool =>
        obtain ⟨rfl, rfl, rfl⟩ := Program.amid_done_iff.1 ended
        exact ⟨rfl, rfl, rfl⟩
    obtain ⟨refreshed, rfl, rfl⟩ := told
    -- The layouts are those of the pass.
    have count : Trace.layouts translator (⟨.beginRediscovery, true⟩ ::
        (passing ++ [⟨.endRediscovery, ()⟩])) = passing.layouts translator ++ [] :=
      Trace.layouts_append translator passing _
    refine ⟨whole, ?_⟩
    rw [List.append_nil] at count
    rw [refreshed, ← mapped, ← count]

end Discovery

end RedisCluster
