import RedisCluster.Proofs.Client.Knowledge
import RedisCluster.Proofs.Dispatcher.Takeover

/-! A layout that is loaded has the last word on every slot, whatever was learned of the slot since the
layout was reported. -/

namespace RedisCluster

namespace Topology

variable {topology : Topology}

/-- A slot belongs to a node once a layout is loaded exactly if the layout gives it to that node. -/
theorem ownedBy_rebuild_iff (accepting : topology.closed = false) (consistent : topology.Consistent)
    (ranges : List SlotRange) {slot : Nat} (inside : slot < slotCount) (node : Endpoint) :
    (topology.rebuild ranges).2.OwnedBy slot node ↔
      ∃ master, Layout.master? slot ranges = some master ∧ master.sameNode node = true := by
  have owners := owners_rebuild accepting consistent ranges inside
  split at owners
  · -- Two nodes that own the slot are one node.
    rename_i master given
    obtain ⟨pool, owns, same⟩ := owners
    have alike : pool.endpoint.nodeKey = master.nodeKey := Endpoint.sameNode_iff.1 same
    constructor
    · rintro ⟨other, owned, is⟩
      rw [owns, Option.some.injEq] at owned
      subst owned
      exact ⟨master, given, Endpoint.sameNode_iff.2 (alike.symm.trans (Endpoint.sameNode_iff.1 is))⟩
    · rintro ⟨other, named, is⟩
      rw [given, Option.some.injEq] at named
      subst named
      exact ⟨pool, owns, Endpoint.sameNode_iff.2 (alike.trans (Endpoint.sameNode_iff.1 is))⟩
  · rename_i uncovered
    -- The layout gives the slot to nobody, so nobody has it.
    refine iff_of_false ?_ ?_
    · rintro ⟨pool, owns, _⟩
      simp [owners] at owns
    · rintro ⟨master, given, _⟩
      simp [uncovered] at given

end Topology

namespace Client

variable {client : Client} {state : ClientState} {moves front between : List (Move Outcome)}
  {teller reader : Nat} {telling reading : (op : Op) → op.Choice} {slots : List Nat}
  {node : Endpoint} {pool : PoolRef} {ranges : List SlotRange}

/-- Whenever a job gives slots to a node, it has just been redirected to that node for one slot, which
belongs to the node from then on. -/
theorem owned_of_redirect (consistent : state.topology.Consistent)
    (jobs : ∀ program, .start program ∈ moves → ∃ job : Job, program = job.program client)
    (redirected : (({ state } : System Outcome).run moves).turn? teller telling =
      some ⟨.assign slots node, .ok pool⟩) :
    let system : System Outcome := { state }
    let after := (system.run (moves ++ [.step teller telling])).state.topology
    ∃ slot, slots = [slot] ∧ slot < slotCount ∧
      (system.past teller moves).Redirects client.dispatcher.translator [slot] node ∧
      after.OwnedBy slot node ∧ after.Knows node := by
  intro system after
  have consistent : (system.run moves).state.topology.Consistent := run_consistent jobs consistent
  -- The rules allow the step only after such a redirect.
  have redirects := allowed_of_turn jobs redirected
  obtain ⟨_, _, _, _, answered, stepped⟩ := System.turn_cases redirected
  obtain ⟨rfl, answered⟩ := Exchange.mk.inj answered
  -- The step has written the slots into the table, as its answer shows.
  have given := (eq_of_heq answered).symm
  have table : after = ((system.run moves).state.topology.assign slots node).2 := by
    show (system.run (moves ++ [_])).state.topology = _
    rw [System.run_append]
    exact congrArg ClientState.topology stepped
  -- A redirect names one slot, and only a slot that there is.
  obtain ⟨_, _, _, slot, _, _, judged, rfl, rfl⟩ := redirects
  have inside := Redirect.lt_of_moved judged
  obtain ⟨_, _, _, owners⟩ := Topology.assign_open (Topology.accepting_of_assign given) consistent
    [slot] (client.dispatcher.translator.apply _)
  have owned := owners slot inside
  rw [if_pos (List.mem_singleton_self slot)] at owned
  refine ⟨slot, rfl, inside, allowed_of_turn jobs redirected, ?_, ?_⟩ <;> rw [table]
  · exact owned
  · exact Topology.knows_of_assign consistent given

/-- Whenever a job loads a layout, a node has just reported that layout to it, and the layout says of
every slot who owns it from then on. -/
theorem owners_of_layout (consistent : state.topology.Consistent)
    (jobs : ∀ program, .start program ∈ moves → ∃ job : Job, program = job.program client)
    (loaded : (({ state } : System Outcome).run moves).turn? reader reading =
      some ⟨.rebuild ranges, .ok ()⟩) :
    let system : System Outcome := { state }
    let after := (system.run (moves ++ [.step reader reading])).state.topology
    (system.past reader moves).Reports client.dispatcher.translator ranges ∧
      after.closed = false ∧
      ∀ slot, slot < slotCount →
        (match Layout.master? slot ranges with
          | some master => after.OwnedBy slot master
          | none => after.owner slot = none) ∧
        ∀ node, after.OwnedBy slot node ↔
          ∃ master, Layout.master? slot ranges = some master ∧ master.sameNode node = true := by
  intro system after
  have consistent : (system.run moves).state.topology.Consistent := run_consistent jobs consistent
  -- The rules allow the loading only after such a report.
  have reports := allowed_of_turn jobs loaded
  obtain ⟨_, _, _, _, answered, stepped⟩ := System.turn_cases loaded
  obtain ⟨rfl, answered⟩ := Exchange.mk.inj answered
  -- The layout was not refused, so the table was open, and what is in it is the layout's alone.
  have accepting := Topology.accepting_of_rebuild (eq_of_heq answered).symm
  have table : after = ((system.run moves).state.topology.rebuild ranges).2 := by
    show (system.run (moves ++ [_])).state.topology = _
    rw [System.run_append]
    exact congrArg ClientState.topology stepped
  obtain ⟨_, still, _⟩ := Topology.rebuild_open accepting consistent ranges
  rw [table]
  exact ⟨reports, still, fun slot inside => ⟨Topology.owners_rebuild accepting consistent ranges inside,
    Topology.ownedBy_rebuild_iff accepting consistent ranges inside⟩⟩

/-- One job has given slots to a node, and another one loads a layout after that. The slots are the one
slot for which a redirect has just named the node to the first job, and the layout is the one that a
node has just reported to the second job, before the redirect or since. Either way the layout says of
every slot who owns it, so the redirected slot is still with its node exactly if the layout gives it to
that node. The node stays known. -/
theorem layout_overrules_redirect (consistent : state.topology.Consistent)
    (jobs : ∀ program, .start program ∈ front ++ .step teller telling :: between →
      ∃ job : Job, program = job.program client)
    (redirected : (({ state } : System Outcome).run front).turn? teller telling =
      some ⟨.assign slots node, .ok pool⟩)
    (loaded : (({ state } : System Outcome).run (front ++ .step teller telling :: between)).turn?
      reader reading = some ⟨.rebuild ranges, .ok ()⟩) :
    let system : System Outcome := { state }
    let earlier := front ++ .step teller telling :: between
    let after := (system.run (earlier ++ [.step reader reading])).state.topology
    ∃ slot, slots = [slot] ∧ slot < slotCount ∧
      (system.past teller front).Redirects client.dispatcher.translator [slot] node ∧
      (system.run (front ++ [.step teller telling])).state.topology.OwnedBy slot node ∧
      (system.past reader earlier).Reports client.dispatcher.translator ranges ∧
      (∀ other, other < slotCount →
        match Layout.master? other ranges with
        | some master => after.OwnedBy other master
        | none => after.owner other = none) ∧
      (after.OwnedBy slot node ↔
        ∃ master, Layout.master? slot ranges = some master ∧ master.sameNode node = true) ∧
      after.Knows node := by
  intro system earlier after
  -- The redirect was before the loading, when the table said what it had just been told.
  obtain ⟨slot, rfl, inside, redirects, owned, known⟩ := owned_of_redirect consistent
    (fun program member => jobs program (List.mem_append_left _ member)) redirected
  obtain ⟨reports, accepting, owners⟩ := owners_of_layout consistent jobs loaded
  refine ⟨slot, rfl, inside, redirects, owned, reports, fun other within => (owners other within).1,
    (owners slot inside).2 node, ?_⟩
  -- The client is open to the end, so it has forgotten no node.
  have whole : earlier ++ [.step reader reading] =
      (front ++ [.step teller telling]) ++ (between ++ [.step reader reading]) := by
    simp [earlier]
  have whole_jobs : ∀ program,
      .start program ∈ (front ++ [.step teller telling]) ++ (between ++ [.step reader reading]) →
        ∃ job : Job, program = job.program client :=
    fun program member => jobs program (by simpa using member)
  have kept := knows_run whole_jobs consistent known
  rw [← whole] at kept
  exact kept.resolve_left fun shut => Bool.false_ne_true (accepting.symm.trans shut)

/-- Nodes of which one reports that slot 3 is still where it was, while it refers commands for the slot
to the node that has taken it over. -/
def lagging : (op : Op) → op.Choice :=
  Op.surroundings (fun _ => .ok ()) fun _ request =>
    match request with
    | .layout => .ok (Layout.toReply [(3, 3, Failover.promotion.lost)])
    | .command _ => .ok (.error "MOVED 3 127.0.0.1:7001")
    | _ => .ok .ok

/-- A client that rediscovers the layout for one caller and runs a command for another one. The layout
has been reported but is not loaded when the command is about to give the slot away. -/
def overtaken (client : Client) : List (Move Outcome) :=
  [.start (Job.program client (.rediscover none)),
    .start (Job.program client (.execute (.get (Utf8.encode "raw"))))] ++
    List.replicate 8 (.step 0 lagging) ++ List.replicate 10 (.step 1 lagging)

/-- Those two callers have jobs of the client. -/
theorem jobs_overtaken (client : Client) {rest : List (Move Outcome)}
    (no_more : ∀ program, .start program ∉ rest) (program : Program Outcome)
    (member : .start program ∈ overtaken client ++ rest) :
    ∃ job : Job, program = job.program client := by
  -- Of all moves two start a program, the rediscovery and the command.
  simp only [overtaken, List.mem_append, List.mem_cons, Move.start.injEq, List.not_mem_nil, or_false,
    List.mem_replicate, reduceCtorEq, and_false, no_more program] at member
  rcases member with rfl | rfl
  · exact ⟨_, rfl⟩
  · exact ⟨_, rfl⟩

/-- The caller with the command is about to give the slot to the node to which it was redirected. -/
theorem turn_overtaken : (({ state := Failover.behind } : System Outcome).run
    (overtaken ⟨Dispatcher.new .identity 2⟩)).turn? 1 lagging =
      some ⟨.assign [3] Failover.promotion.heir, .ok ⟨1, Failover.promotion.heir⟩⟩ := by
  decide +kernel

/-- Once it has done so, the other caller loads the layout that was reported before. -/
theorem turn_corrected : (({ state := Failover.behind } : System Outcome).run
    (overtaken ⟨Dispatcher.new .identity 2⟩ ++ [.step 1 lagging, .step 0 lagging])).turn? 0 lagging =
      some ⟨.rebuild [⟨3, 3, Failover.promotion.lost, []⟩], .ok ()⟩ := by
  decide +kernel

/-- The layout of a node that lags behind takes a slot from the node to which a redirect has just led. -/
theorem layout_overrules_redirect_of_lagging :
    let client : Client := ⟨Dispatcher.new .identity 2⟩
    let after := (({ state := Failover.behind } : System Outcome).run
      (overtaken client ++ .step 1 lagging :: [.step 0 lagging] ++ [.step 0 lagging])).state.topology
    ¬after.OwnedBy 3 Failover.promotion.heir ∧ after.OwnedBy 3 Failover.promotion.lost ∧
      after.owner 4 = none ∧ after.Knows Failover.promotion.heir := by
  intro client after
  -- The scene of a failover gives a consistent table to begin with.
  obtain ⟨scene, _⟩ := Failover.scene_behind (by decide : 2 ≤ 8)
  obtain ⟨slot, same, _, _, _, _, owners, moved, known⟩ := layout_overrules_redirect scene.consistent
    (jobs_overtaken client (by simp)) turn_overtaken turn_corrected
  obtain rfl : 3 = slot := (List.cons.inj same).1
  -- The layout gives the slot to the node that had it before, and has no other slot.
  have given : Layout.master? 3 [⟨3, 3, Failover.promotion.lost, []⟩] =
      some Failover.promotion.lost := by
    decide +kernel
  have uncovered : Layout.master? 4 [⟨3, 3, Failover.promotion.lost, []⟩] = none := by
    decide +kernel
  have here := owners 3 (by decide)
  have there := owners 4 (by decide)
  rw [given] at here moved
  rw [uncovered] at there
  refine ⟨fun owned => ?_, here, there, known⟩
  -- If the slot were still the heir's, the layout would name the heir for it.
  obtain ⟨master, named, heir⟩ := moved.1 owned
  rw [← Option.some.inj named] at heir
  exact absurd heir (by decide +kernel)

/-- A layout that was reported before a redirect is loaded after it all the same, and the slot does not
stay with the node to which the redirect led. -/
theorem redirect_lost_to_older_layout :
    let client : Client := ⟨Dispatcher.new .identity 2⟩
    let system : System Outcome := { state := Failover.behind }
    let corrected := overtaken client ++ [.step 1 lagging]
    let reported : List SlotRange := [⟨3, 3, Failover.promotion.lost, []⟩]
    (system.past 0 (overtaken client)).Reports .identity reported ∧
      (system.run (overtaken client)).turn? 1 lagging =
        some ⟨.assign [3] Failover.promotion.heir, .ok ⟨1, Failover.promotion.heir⟩⟩ ∧
      (system.run corrected).state.topology.owner 3 = some ⟨1, Failover.promotion.heir⟩ ∧
      (system.run (corrected ++ [.step 0 lagging])).turn? 0 lagging =
        some ⟨.rebuild reported, .ok ()⟩ ∧
      (system.run (corrected ++ [.step 0 lagging, .step 0 lagging])).state.topology.owner 3 =
        some ⟨0, Failover.promotion.lost⟩ ∧
      ¬(system.run (corrected ++ [.step 0 lagging, .step 0 lagging])).state.topology.OwnedBy 3
        Failover.promotion.heir := by
  intro client system corrected reported
  have heard : (system.past 0 (overtaken client)).heard = some
      (.pooled ⟨0, Failover.promotion.lost⟩ 0, .layout,
        .ok (Layout.toReply [(3, 3, Failover.promotion.lost)])) := by
    decide +kernel
  have owner : (system.run (corrected ++ [.step 0 lagging, .step 0 lagging])).state.topology.owner 3 =
      some ⟨0, Failover.promotion.lost⟩ := by
    -- Once the older layout is loaded, the slot is back with the node that was lost.
    decide +kernel
  have loaded : (system.run (corrected ++ [.step 0 lagging])).turn? 0 lagging =
      some ⟨.rebuild reported, .ok ()⟩ := by
    rw [List.append_assoc]
    exact turn_corrected
  refine ⟨⟨_, _, heard, by decide +kernel⟩, turn_overtaken, by decide +kernel, loaded, owner, ?_⟩
  -- An owner is one node, and that is not the heir.
  rintro ⟨pool, owns, heir⟩
  rw [owner, Option.some.injEq] at owns
  subst owns
  exact absurd heir (by decide +kernel)

end Client

end RedisCluster
