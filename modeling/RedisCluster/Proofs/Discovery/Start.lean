import RedisCluster.Proofs.Client.Knowledge
import RedisCluster.Proofs.Client.Stranded
import RedisCluster.Proofs.Topology.Calls

/-! What a client knows once it is built: the nodes of the first layout that a bootstrap node reports,
or the bootstrap nodes themselves if none reports any. -/

namespace RedisCluster

namespace Trace

variable {translator : Translator} {front back : Trace} {ranges : List SlotRange}

@[simp] theorem heard_append (front back : Trace) :
    heard (front ++ back) = back.heard.or front.heard := by
  simp [heard, List.getLast?_append]

/-- Nothing is heard where nothing is asked. -/
theorem heard_of_idle {trace : Trace} (idle : ∀ exchange ∈ trace, exchange.op.isTraffic = false) :
    trace.heard = none := by
  have unheard : trace.filterMap Exchange.answer? = [] := by
    refine List.filterMap_eq_nil_iff.2 fun exchange member => ?_
    have silent := idle exchange member
    rcases exchange with ⟨op, answer⟩
    -- Only answers are heard, and an answer is traffic.
    cases op <;> first | rfl | simp [Op.isTraffic] at silent
  rw [heard, unheard, List.getLast?_nil]

/-- A layout that is reported last is reported last, whatever came before. -/
theorem Reports.prepend (reports : back.Reports translator ranges) (front : Trace) :
    Reports translator (front ++ back) ranges := by
  -- The lease and the reply are the ones that were heard last.
  obtain ⟨lease, reply, heard, read⟩ := reports
  exact ⟨lease, reply, by rw [heard_append, heard]; rfl, read⟩

/-- A layout that is reported last is reported in the end or before. -/
theorem Reports.of_append (reports : Reports translator (front ++ back) ranges) :
    back.Reports translator ranges ∨ front.Reports translator ranges := by
  obtain ⟨lease, reply, heard, read⟩ := reports
  rw [heard_append, Option.or_eq_some_iff] at heard
  -- Something was heard behind, or else only in front.
  rcases heard with late | ⟨_, early⟩
  · exact .inl ⟨lease, reply, late, read⟩
  · exact .inr ⟨lease, reply, early, read⟩

/-- One trace reports one layout at most. -/
theorem Reports.unique {others : List SlotRange} (one : front.Reports translator ranges)
    (other : front.Reports translator others) : ranges = others := by
  obtain ⟨lease, reply, heard, read⟩ := one
  obtain ⟨_, _, again, same⟩ := other
  -- The last answer is one, and so is its meaning.
  rw [heard, Option.some.injEq, Prod.mk.injEq, Prod.mk.injEq, Except.ok.injEq] at again
  obtain ⟨rfl, _, rfl⟩ := again
  exact Except.ok.inj (read.symm.trans same)

end Trace

namespace Topology

variable {topology : Topology}

/-- A layout that is loaded into an open table makes some node known, unless it has no ranges and none
was known before. -/
theorem nodes_rebuild_eq_nil (accepting : topology.closed = false) (consistent : topology.Consistent)
    (ranges : List SlotRange) :
    (topology.rebuild ranges).2.nodes = [] ↔ topology.nodes = [] ∧ ranges = [] := by
  cases ranges with
  -- A layout without ranges leaves the table with the nodes that it had.
  | nil => simp [rebuild, accepting, clearSlots]
  | cons range rest =>
    refine iff_of_false (fun empty => ?_) (by simp)
    -- The master of the first range is registered, and the other ranges forget nobody.
    have cleared : topology.clearSlots.closed = false := accepting
    obtain ⟨placed, _⟩ := assign_open cleared consistent.clearSlots range.slots range.master
    have placed : (topology.clearSlots.place range).closed = false := placed
    obtain ⟨_, kept, _⟩ :=
      places_open placed (consistent.clearSlots.assign range.slots range.master) rest
    have whole : (topology.rebuild (range :: rest)).2 =
        rest.foldl place (topology.clearSlots.place range) := by
      simp [rebuild, accepting]
    have known : (topology.clearSlots.place range).Knows range.master := by
      rcases assign_cases topology.clearSlots range.slots range.master with
        ⟨shut, _⟩ | ⟨pool, grown, _, same⟩
      · exact absurd (accepting.symm.trans shut) Bool.false_ne_true
      · have given : (topology.clearSlots.assign range.slots range.master).1 = .ok pool := by rw [same]
        exact knows_of_assign consistent.clearSlots given
    obtain ⟨pool, member, _⟩ := known
    obtain ⟨entry, present, _⟩ := List.mem_map.1 member
    -- The master is still known when all ranges are placed.
    have still := kept present
    rw [← whole, empty] at still
    exact List.not_mem_nil still

/-- No pools are known exactly if no nodes are. -/
theorem knownPools_eq_nil : topology.knownPools = [] ↔ topology.nodes = [] :=
  List.map_eq_nil_iff

end Topology

namespace Discovery

open Program

variable {translator : Translator} {state last : ClientState} {trace : Trace}

/-- A bootstrap node reports a layout, or nothing that can be read as one; the table stays as it was. -/
theorem alone_queryBootstrap {node : Endpoint} {result : Except ClientError (List SlotRange)}
    (run : Alone (queryBootstrap translator node) state trace result last) :
    last.topology = state.topology ∧
      ∀ ranges, result = .ok ranges ↔ trace.Reports translator ranges := by
  obtain ⟨dialled, rest, rfl, connected⟩ := alone_ask_iff.1 run
  cases dialled with
  | error error =>
    obtain ⟨rfl, rfl, rfl⟩ := amid_done_iff.1 connected
    -- Where no connection was made nothing is heard.
    refine ⟨rfl, fun ranges => iff_of_false (by simp) ?_⟩
    rintro ⟨_, _, heard, _⟩
    simp [Trace.heard, Exchange.answer?] at heard
  -- The question is sent over the new connection, and its answer comes back.
  | ok opened =>
    obtain ⟨_, _, rfl, sent⟩ := alone_ask_iff.1 connected
    obtain ⟨reply, _, rfl, answered⟩ := alone_ask_iff.1 sent
    obtain ⟨rfl, rfl, rfl⟩ := amid_done_iff.1 answered
    refine ⟨rfl, fun ranges => ?_⟩
    -- The answer is the last thing that is heard.
    constructor
    · intro read
      cases reply with
      | error error => cases read
      | ok frame => exact ⟨.direct node state.dialled, frame, rfl, read⟩
    · rintro ⟨lease, frame, heard, read⟩
      obtain ⟨rfl, answer⟩ := Prod.mk.inj (Option.some.inj heard)
      obtain ⟨_, rfl⟩ := Prod.mk.inj answer
      exact read

/-- A bootstrap node that reports a layout has the table built from it alone; otherwise the table stays
as it was. -/
theorem alone_loadFrom (accepting : state.topology.closed = false) {node : Endpoint}
    {result : Except ClientError Unit}
    (run : Alone (loadFrom translator node) state trace result last) :
    (∃ ranges, result = .ok () ∧ trace.Reports translator ranges ∧
      last.topology = (state.topology.reset.rebuild ranges).2) ∨
    (∃ error, result = .error error ∧ last.topology = state.topology ∧
      ∀ ranges, ¬trace.Reports translator ranges) := by
  obtain ⟨asking, loading, answer, middle, rfl, asked, loaded⟩ := amid_bind_iff.1 run
  obtain ⟨same, reported⟩ := alone_queryBootstrap asked
  cases answer with
  | error error =>
    obtain ⟨rfl, rfl, rfl⟩ := amid_done_iff.1 loaded
    rw [List.append_nil]
    -- Had the node reported a layout, its answer would have been read.
    exact .inr ⟨error, rfl, same, fun ranges reports => by cases (reported ranges).2 reports⟩
  | ok ranges =>
    obtain ⟨_, _, rfl, cleared⟩ := alone_ask_iff.1 loaded
    obtain ⟨_, _, rfl, rebuilt⟩ := alone_ask_iff.1 cleared
    obtain ⟨rfl, rfl, rfl⟩ := amid_done_iff.1 rebuilt
    -- A reset leaves an open table open, so the layout is not refused.
    have still : middle.topology.reset.closed = false := by
      rw [same]
      exact accepting
    have accepted : (middle.topology.reset.rebuild ranges).1 = .ok () := by
      simp [Topology.rebuild, still]
    -- The report came before the table was touched, and nothing was heard since.
    obtain ⟨lease, reply, heard, read⟩ := (reported ranges).1 rfl
    refine .inl ⟨ranges, accepted, ⟨lease, reply, ?_, read⟩, by rw [← same]; rfl⟩
    rw [Trace.heard_append, heard]
    rfl

/-- The first bootstrap node that reports a layout has the table built from it alone; if none does the
table stays as it was. -/
theorem alone_loadFirst (accepting : state.topology.closed = false) {bootstrap : List Endpoint}
    {loaded : Bool} (run : Alone (loadFirst translator bootstrap) state trace loaded last) :
    (∃ ranges, loaded = true ∧ trace.Reports translator ranges ∧
      last.topology = (state.topology.reset.rebuild ranges).2) ∨
    (loaded = false ∧ last.topology = state.topology ∧
      ∀ ranges, ¬trace.Reports translator ranges) := by
  induction bootstrap generalizing state trace with
  | nil =>
    obtain ⟨rfl, rfl, rfl⟩ := amid_done_iff.1 run
    refine .inr ⟨rfl, rfl, fun ranges => ?_⟩
    rintro ⟨_, _, heard, _⟩
    -- Nothing was done, so nothing was heard.
    simp [Trace.heard] at heard
  | cons node rest ih =>
    obtain ⟨first, second, answer, middle, rfl, asked, others⟩ := amid_bind_iff.1 run
    rcases alone_loadFrom accepting asked with
      ⟨ranges, rfl, reports, built⟩ | ⟨error, rfl, same, unread⟩
    -- The first node with a layout is the last that is asked.
    · obtain ⟨rfl, rfl, rfl⟩ := amid_done_iff.1 others
      rw [List.append_nil]
      exact .inl ⟨ranges, rfl, reports, built⟩
    · -- The next node is asked with the table as it was.
      rcases ih (by rw [same]; exact accepting) others with
        ⟨ranges, rfl, reports, built⟩ | ⟨rfl, still, unread_too⟩
      · exact .inl ⟨ranges, rfl, reports.prepend first, by rw [built, same]⟩
      · exact .inr ⟨rfl, still.trans same, fun ranges reports =>
          -- Neither this node nor the others have reported a layout.
          reports.of_append.elim (unread_too ranges) (unread ranges)⟩

/-- Nodes that are registered with an open table are known from then on, and nothing is heard. -/
theorem alone_registerAll (accepting : state.topology.closed = false)
    (consistent : state.topology.Consistent) {bootstrap : List Endpoint}
    (run : Alone (registerAll bootstrap) state trace () last) :
    last.topology.closed = false ∧ last.topology.Consistent ∧
      state.topology.nodes ⊆ last.topology.nodes ∧
      (∀ node ∈ bootstrap, last.topology.Knows node) ∧ trace.heard = none := by
  induction bootstrap generalizing state trace with
  | nil =>
    obtain ⟨rfl, _, rfl⟩ := amid_done_iff.1 run
    exact ⟨accepting, consistent, List.Subset.refl _, by simp, rfl⟩
  | cons node rest ih =>
    obtain ⟨first, second, answer, middle, rfl, registered, others⟩ := amid_bind_iff.1 run
    -- A node is looked up and registered without any traffic.
    have idle : (getOrCreate node).Within fun op => op.isTraffic = false := by
      refine ⟨rfl, fun known => ?_⟩
      cases known with
      | some pool => trivial
      | none => exact ⟨rfl, fun _ => trivial⟩
    have silent := Trace.heard_of_idle (registered.within idle)
    obtain ⟨_, rfl⟩ := Topology.alone_getOrCreate consistent registered
    have open_ : (state.topology.register node).2.closed = false :=
      (Topology.Tidy.closed_register _ node).trans accepting
    -- The table is open and consistent for the other nodes, too.
    obtain ⟨still, after, kept, known, quiet⟩ := ih open_ (consistent.register node) others
    refine ⟨still, after, List.Subset.trans (Topology.nodes_register _ node) kept, fun other member => ?_,
      by rw [Trace.heard_append, quiet, silent]; rfl⟩
    rcases List.mem_cons.1 member with rfl | later
    · -- No later node makes the first one forgotten.
      cases made : state.topology.register other with
      | mk answer grown =>
        rw [made] at kept
        cases answer with
        | error error =>
          have shut := (Topology.register_error made).1
          exact absurd (accepting.symm.trans shut) Bool.false_ne_true
        | ok pool => exact (Topology.knows_of_register consistent made).mono kept
    -- The others are known by the induction.
    · exact known other later

/-- A client starts from the first layout that a bootstrap node reports, or from the bootstrap nodes if
none reports any. -/
theorem alone_start (accepting : state.topology.closed = false)
    (consistent : state.topology.Consistent) {bootstrap : List Endpoint} {loaded : Bool}
    (run : Alone (start translator bootstrap) state trace loaded last) :
    last.topology.closed = false ∧ last.topology.Consistent ∧
    ((∃ ranges, loaded = true ∧ trace.Reports translator ranges ∧
        last.topology = (state.topology.reset.rebuild ranges).2) ∨
      (loaded = false ∧ (∀ ranges, ¬trace.Reports translator ranges) ∧
        ∀ node ∈ bootstrap, last.topology.Knows node)) := by
  obtain ⟨first, second, found, middle, rfl, asked, ended⟩ := amid_bind_iff.1 run
  rcases alone_loadFirst accepting asked with ⟨ranges, rfl, reports, built⟩ | ⟨rfl, same, unread⟩
  -- A layout was found, and the client starts from it alone.
  · obtain ⟨rfl, rfl, rfl⟩ := amid_done_iff.1 ended
    have opened : state.topology.reset.closed = false := accepting
    obtain ⟨_, still, _⟩ := Topology.rebuild_open opened consistent.reset ranges
    rw [List.append_nil]
    exact ⟨built ▸ still, built ▸ consistent.reset.rebuild ranges, .inl ⟨ranges, rfl, reports, built⟩⟩
  · obtain ⟨third, fourth, _, after, rfl, registered, finished⟩ := amid_bind_iff.1 ended
    obtain ⟨rfl, rfl, rfl⟩ := amid_done_iff.1 finished
    -- The table is as it was, so the bootstrap nodes are registered with an open one.
    rw [← same] at accepting consistent
    obtain ⟨still, kept, _, known, quiet⟩ := alone_registerAll accepting consistent registered
    refine ⟨still, kept, .inr ⟨rfl, fun ranges reports => ?_, known⟩⟩
    -- Registering nodes makes nothing heard, so the report would have come before.
    rw [List.append_nil] at reports
    rcases reports.of_append with ⟨_, _, heard, _⟩ | earlier
    · simp [quiet] at heard
    · exact unread ranges earlier

end Discovery

namespace Client

open Program

variable {client : Client} {state last : ClientState} {trace : Trace} {moves : List (Move Outcome)}

/-- A client that knows some node knows one at every moment before it is closed. -/
theorem knownPools_run_ne_nil (consistent : state.topology.Consistent)
    (jobs : ∀ program, .start program ∈ moves → ∃ job : Job, program = job.program client)
    (known : state.topology.knownPools ≠ []) :
    (({ state } : System Outcome).run moves).state.topology.closed = true ∨
      (({ state } : System Outcome).run moves).state.topology.knownPools ≠ [] := by
  have whole : ∀ program, .start program ∈ [] ++ moves → ∃ job : Job, program = job.program client :=
    -- The moves begin with the state that is given.
    jobs
  -- If none were known now, none would have been known at first, because none is forgotten.
  refine (nodes_run whole consistent).imp_right fun kept empty => known ?_
  rw [List.nil_append, Topology.knownPools_eq_nil.1 empty, List.subset_nil] at kept
  exact Topology.knownPools_eq_nil.2 kept

/-- An open client that was started from some bootstrap nodes knows a node at every moment before it is
closed, unless the layout that it started from had no ranges. Then it never knows any node, and
everything that it is asked to do is futile. -/
theorem knows_after_start (client : Client) {bootstrap : List Endpoint} {loaded : Bool}
    (some_nodes : bootstrap ≠ []) (accepting : state.topology.closed = false)
    (consistent : state.topology.Consistent)
    (run : Alone (Discovery.start client.dispatcher.translator bootstrap) state trace loaded last)
    (jobs : ∀ program, .start program ∈ moves → ∃ job : Job, program = job.program client) :
    let later := ({ state := last } : System Outcome).run moves
    last.topology.closed = false ∧
      (last.topology.knownPools = [] ↔ trace.Reports client.dispatcher.translator []) ∧
      (later.state.topology.closed = true ∨
        (later.state.topology.knownPools = [] ↔ trace.Reports client.dispatcher.translator [])) ∧
      (trace.Reports client.dispatcher.translator [] → ∀ index outcome,
        later.outcome? index = some outcome → outcome.Futile) := by
  intro later
  obtain ⟨opened, kept, cases⟩ := Discovery.alone_start accepting consistent run
  have known : last.topology.knownPools = [] ↔ trace.Reports client.dispatcher.translator [] := by
    rw [Topology.knownPools_eq_nil]
    rcases cases with ⟨ranges, _, reports, built⟩ | ⟨_, unread, known⟩
    · -- The layout was loaded into an empty table.
      have reset_open : state.topology.reset.closed = false := accepting
      rw [built, Topology.nodes_rebuild_eq_nil reset_open consistent.reset]
      exact ⟨fun ⟨_, empty⟩ => empty ▸ reports, fun empty => ⟨rfl, reports.unique empty⟩⟩
    · -- No layout was read, and the bootstrap nodes are known in its stead.
      obtain ⟨node, rest, rfl⟩ := List.exists_cons_of_ne_nil some_nodes
      obtain ⟨pool, member, _⟩ := known node List.mem_cons_self
      refine iff_of_false (fun empty => ?_) (unread [])
      simp [Topology.knownPools, empty] at member
  refine ⟨opened, known, ?_, fun empty => ?_⟩
  · by_cases empty : trace.Reports client.dispatcher.translator []
    · -- A client that knows nobody never learns of anybody.
      have stranded : last.Stranded := ⟨kept, Topology.knownPools_eq_nil.1 (known.2 empty)⟩
      have still := (stranded_run stranded jobs).2.nodes
      exact .inr (iff_of_true (Topology.knownPools_eq_nil.2 still) empty)
    · -- A client that knows somebody goes on knowing somebody.
      refine (knownPools_run_ne_nil kept jobs fun nobody => empty (known.1 nobody)).imp_right ?_
      exact fun somebody => iff_of_false somebody empty
  -- Nobody is known, so every job ends in vain.
  · exact (stranded_run ⟨kept, Topology.knownPools_eq_nil.1 (known.2 empty)⟩ jobs).1

/-- Nodes that nobody can reach. -/
def refusing : (op : Op) → op.Choice :=
  Op.surroundings (fun _ => .error (.io "connection refused")) fun _ _ => .ok .ok

/-- A caller who has the layout reloaded while nobody can reach any node. -/
def reloading (client : Client) : List (Move Outcome) :=
  .start (Job.program client .refresh) :: List.replicate 9 (.step 0 refusing)

/-- The start of a client whose bootstrap node nobody can reach. -/
def refusedStart : Bool × ClientState × Trace :=
  Program.play refusing (Discovery.start .identity [⟨"127.0.0.1", 7000⟩]) (.initial {})

/-- A client whose bootstrap node refuses it knows that node, also when it has reloaded the layout in
vain. -/
theorem knows_after_refused_start :
    let client : Client := ⟨Dispatcher.new .identity 2⟩
    (({ state := refusedStart.2.1 } : System Outcome).run (reloading client)).outcome? 0 =
        some (.refreshed (.error (.noReachableNode none))) ∧
      (({ state := refusedStart.2.1 } : System Outcome).run
        (reloading client)).state.topology.knownPools ≠ [] := by
  intro client
  have jobs : ∀ program, .start program ∈ reloading client →
      ∃ job : Job, program = job.program client := by
    -- The only move that starts anything starts the reload.
    intro program member
    simp only [reloading, List.mem_cons, Move.start.injEq, List.mem_replicate, reduceCtorEq,
      and_false, or_false] at member
    exact ⟨_, member⟩
  have accepting : (ClientState.initial {}).topology.closed = false := rfl
  have run : Alone (Discovery.start client.dispatcher.translator [⟨"127.0.0.1", 7000⟩]) (.initial {})
      refusedStart.2.2 refusedStart.1 refusedStart.2.1 := alone_play refusing _ _
  obtain ⟨_, _, known, _⟩ := knows_after_start client (List.cons_ne_nil _ _) accepting
    (Topology.consistent_new {}) run jobs
  -- Nothing was heard at the start, so no layout was either.
  have unheard : Trace.heard refusedStart.2.2 = none := by decide +kernel
  have still : (({ state := refusedStart.2.1 } : System Outcome).run
      (reloading client)).state.topology.closed = false := by
    decide +kernel
  rw [still] at known
  refine ⟨by decide +kernel, fun empty => ?_⟩
  obtain ⟨_, _, heard, _⟩ := (known.resolve_left Bool.false_ne_true).1 empty
  simp [unheard] at heard

/-- Nodes that report a layout without ranges. -/
def blank : (op : Op) → op.Choice :=
  Op.surroundings (fun _ => .ok ()) fun _ _ => .ok (.array [])

/-- A client whose bootstrap node reports a layout without ranges is built and knows no node, so that not
even a command that any node could run is sent. -/
theorem nobody_known_after_blank_start :
    let started := Program.play blank (Discovery.start .identity [⟨"127.0.0.1", 7000⟩]) (.initial {})
    Alone (Discovery.start .identity [⟨"127.0.0.1", 7000⟩]) (.initial {}) started.2.2 started.1
        started.2.1 ∧
      started.1 = true ∧ started.2.1.topology.closed = false ∧
      started.2.1.topology.knownPools = [] ∧
      (Client.build { addresses := ["127.0.0.1:7000"] }).map (fun startup =>
        (Program.play blank startup.program startup.state).2.1.topology.knownPools) = .ok [] ∧
      (Program.play blank (Client.execute ⟨Dispatcher.new .identity 2⟩ .ping) started.2.1).1 =
        .error (.noReachableNode none) := by
  -- Everything here is evaluated on the one session.
  exact ⟨alone_play _ _ _, by decide +kernel, by decide +kernel, by decide +kernel, by decide +kernel,
    by decide +kernel⟩

end Client

end RedisCluster
