import RedisCluster.Proofs.Topology.Ready

/-! Steps that leave the routing table alone, and layouts that are loaded into an open one. -/

namespace RedisCluster

namespace Pool

/-- What no step inside a pool changes. -/
def face (pool : Pool) : Endpoint × PoolConfig × Bool :=
  (pool.endpoint, pool.config, pool.closed)

variable (pool : Pool) (ticket : Ticket)

@[simp] theorem face_setStage (stage : Stage) : (pool.setStage ticket stage).face = pool.face := rfl

@[simp] theorem face_releasePermit : pool.releasePermit.face = pool.face := by
  unfold releasePermit
  split <;> rfl

@[simp] theorem face_leave : (pool.leave ticket).face = pool.face := by
  unfold leave
  -- A caller that waits leaves the queue, and one with a permit hands it on.
  split
  · rfl
  · exact face_releasePermit _

@[simp] theorem face_enter : pool.enter.2.face = pool.face := by
  -- Who is let in is seen among the holders or in the queue, and neither is part of the face.
  rcases pool.enter_cases with ⟨_, same⟩ | ⟨_, _, same⟩ | ⟨_, _, same⟩ <;> rw [same] <;> rfl

@[simp] theorem face_awaitPermit : (pool.awaitPermit ticket).2.face = pool.face := by
  -- The pool is the same, or the caller has left.
  rcases pool.awaitPermit_cases ticket with ⟨_, same⟩ | ⟨_, same⟩ <;> simp [same]

@[simp] theorem face_takeIdle : (pool.takeIdle ticket).2.face = pool.face := by
  unfold takeIdle
  split <;> rfl

@[simp] theorem face_opened (outcome : Except ClientError Unit) :
    (pool.opened ticket outcome).face = pool.face := by
  cases outcome with
  | error error => exact face_leave pool ticket
  | ok opened => rfl

@[simp] theorem face_mark (broken : Bool) : (pool.mark ticket broken).face = pool.face := by
  unfold mark
  split <;> rfl

end Pool

namespace Op

/-- A step that leaves the routing table alone and opens or closes no pool. -/
def isSteady : Op → Bool
  | register _ | assign _ _ | rebuild _ | reset | close | closePool _ => false
  | _ => true

/-- A step is steady, or it is one of the six that are not. -/
@[elab_as_elim]
theorem steady_cases {motive : (op : Op) → op.Choice → Prop}
    (steady : ∀ op choice, op.isSteady = true → motive op choice)
    (register : ∀ node choice, motive (.register node) choice)
    (assign : ∀ slots node choice, motive (.assign slots node) choice)
    (rebuild : ∀ ranges choice, motive (.rebuild ranges) choice)
    (reset : ∀ choice, motive .reset choice) (close : ∀ choice, motive .close choice)
    (closePool : ∀ pool choice, motive (.closePool pool) choice) (op : Op) (choice : op.Choice) :
    motive op choice := by
  -- Only six operations are not steady, and each has its own case.
  cases op with
  | register node => exact register node choice
  | assign slots node => exact assign slots node choice
  | rebuild ranges => exact rebuild ranges choice
  | reset => exact reset choice
  | close => exact close choice
  | closePool pool => exact closePool pool choice
  | _ => exact steady _ choice rfl

end Op

namespace Topology

/-- Two tables differ inside their pools at most. -/
structure Steady (before after : Topology) : Prop where
  nodes : after.nodes = before.nodes
  slots : after.slots = before.slots
  closed : after.closed = before.closed
  config : after.config = before.config
  faces : ∀ id, (after.pool? id).map Pool.face = (before.pool? id).map Pool.face

namespace Steady

variable {before after : Topology}

/-- A table differs from itself nowhere. -/
theorem refl (topology : Topology) : Steady topology topology :=
  ⟨rfl, rfl, rfl, rfl, fun _ => rfl⟩

/-- A step inside one pool changes nothing else. -/
theorem updatePool (topology : Topology) (id : Nat) {change : Pool → Pool}
    (faces : ∀ pool, topology.pool? id = some pool → (change pool).face = pool.face) :
    Steady topology (topology.updatePool id change) := by
  refine ⟨rfl, rfl, rfl, rfl, fun other => ?_⟩
  rw [pool?_updatePool]
  split
  · rename_i same
    -- The one pool keeps its face, and the others are not touched.
    subst same
    cases found : topology.pool? id with
    | none => rfl
    | some pool => simp [faces pool found]
  · rfl

/-- Every slot keeps its owner. -/
theorem owner (steady : Steady before after) (slot : Nat) : after.owner slot = before.owner slot := by
  simp only [Topology.owner, steady.slots]

/-- A pool of the one table has the face of the pool of the other one. -/
theorem exists_face (steady : Steady before after) {id : Nat} {pool : Pool}
    (found : after.pool? id = some pool) :
    ∃ old, before.pool? id = some old ∧ pool.face = old.face := by
  -- Both tables have faces in the same places.
  have same := steady.faces id
  rw [found, Option.map_some, eq_comm, Option.map_eq_some_iff] at same
  obtain ⟨old, there, face⟩ := same
  exact ⟨old, there, face.symm⟩

/-- Steps go both ways. -/
theorem symm (steady : Steady before after) : Steady after before :=
  ⟨steady.nodes.symm, steady.slots.symm, steady.closed.symm, steady.config.symm,
    fun id => (steady.faces id).symm⟩

/-- What is consistent stays consistent. -/
theorem consistent (steady : Steady before after) (consistent : before.Consistent) :
    after.Consistent where
  keyed := steady.nodes ▸ consistent.keyed
  distinct := steady.nodes ▸ consistent.distinct
  live entry member := by
    rw [steady.nodes] at member
    -- The pool is found in the table before, and has the same face there.
    obtain ⟨pool, found, endpoint, accepting⟩ := consistent.live entry member
    obtain ⟨current, there, face⟩ := steady.symm.exists_face found
    simp only [Pool.face, Prod.mk.injEq] at face
    exact ⟨current, there, face.1.symm.trans endpoint, face.2.2.symm.trans accepting⟩
  retired id pool found := by
    -- A pool that was closed before is closed now.
    obtain ⟨old, there, face⟩ := steady.exists_face found
    simp only [Pool.face, Prod.mk.injEq] at face
    rw [steady.nodes]
    exact (consistent.retired id old there).imp_right face.2.2.trans
  owned slot pool owns := by
    -- Owners and nodes are those of the table before.
    rw [steady.owner] at owns
    simpa only [node?, steady.nodes] using consistent.owned slot pool owns
  emptied shut := by
    rw [steady.nodes]
    exact consistent.emptied (steady.closed ▸ shut)

end Steady

end Topology

namespace ClientState

variable {state : ClientState}

/-- A step that one pool answers is a step inside that pool. -/
theorem steady_onPool {α : Type} (state : ClientState) (ref : PoolRef) (missing : α)
    {step : Pool → α × Pool} (faces : ∀ pool, (step pool).2.face = pool.face) :
    state.topology.Steady (state.onPool ref missing step).2.topology := by
  unfold onPool
  split
  -- There is no such pool, so nothing has changed.
  · exact .refl _
  · rename_i pool found
    refine .updatePool _ _ fun known located => ?_
    rw [found, Option.some.injEq] at located
    exact located ▸ faces pool

/-- Noting whether a connection may be reused is a step inside a pool. -/
theorem steady_mark (state : ClientState) (lease : Lease) (broken : Bool) :
    state.topology.Steady (state.mark lease broken).topology := by
  cases lease with
  | pooled ref ticket => exact .updatePool _ _ fun pool _ => pool.face_mark ticket broken
  | direct node number => exact .refl _

/-- Steady steps leave the table as it is, but for the inside of its pools. -/
theorem steady_perform {op : Op} (steady : op.isSteady = true) (state : ClientState)
    (choice : op.Choice) : state.topology.Steady (state.perform op choice).2.topology := by
  cases op with
  | enter ref => exact steady_onPool _ _ _ Pool.face_enter
  | awaitPermit ref ticket => exact steady_onPool _ _ _ fun pool => pool.face_awaitPermit ticket
  | takeIdle ref ticket => exact steady_onPool _ _ _ fun pool => pool.face_takeIdle ticket
  | connect ref ticket => exact .updatePool _ _ fun pool _ => pool.face_opened ticket choice
  | leave ref ticket => exact .updatePool _ _ fun pool _ => pool.face_leave ticket
  | send lease request => exact steady_mark _ _ _
  | answer lease request => exact steady_mark _ _ _
  -- A connection past all pools is only counted.
  | dial node => cases choice <;> exact .refl _
  -- None of these is steady.
  | register node => simp [Op.isSteady] at steady
  | assign slots node => simp [Op.isSteady] at steady
  | rebuild ranges => simp [Op.isSteady] at steady
  | reset => simp [Op.isSteady] at steady
  | close => simp [Op.isSteady] at steady
  -- Closing a single pool is not steady, as its face shows that it is closed.
  | closePool ref => simp [Op.isSteady] at steady
  | _ => exact .refl _

/-- Every step but the closing of a single pool keeps a table consistent. -/
theorem consistent_perform (consistent : state.topology.Consistent) {op : Op}
    (together : ∀ pool, op ≠ .closePool pool) (choice : op.Choice) :
    (state.perform op choice).2.topology.Consistent := by
  cases op, choice using Op.steady_cases with
  -- The steps of the table are its own calls, which are known to keep it consistent.
  | steady op choice steady => exact (steady_perform steady state choice).consistent consistent
  | register node => exact consistent.register node
  | assign slots node => exact consistent.assign slots node
  | rebuild ranges => exact consistent.rebuild ranges
  | reset => exact consistent.reset
  | close => exact consistent.close
  | closePool pool => exact absurd rfl (together pool)

end ClientState

/-- The master of a slot in a layout, in which later ranges count before earlier ones. -/
def Layout.master? (slot : Nat) : List SlotRange → Option Endpoint
  | [] => none
  | range :: rest =>
    (master? slot rest).or (if slot ∈ range.slots then some range.master else none)

namespace Topology

variable {topology : Topology}

/-- Every pool, those that are still to be made included, has room for so many callers. -/
structure Roomy (topology : Topology) (room : Nat) : Prop where
  fresh : room ≤ Pool.capacity topology.config
  made : ∀ id pool, topology.pool? id = some pool → room ≤ Pool.capacity pool.config

/-- An assignment to an open table keeps the nodes and the room in their pools, and gives the slots to
the node. -/
theorem assign_open (accepting : topology.closed = false) (consistent : topology.Consistent)
    (slots : List Nat) (endpoint : Endpoint) :
    (topology.assign slots endpoint).2.closed = false ∧
      topology.nodes ⊆ (topology.assign slots endpoint).2.nodes ∧
      (∀ room, topology.Roomy room → (topology.assign slots endpoint).2.Roomy room) ∧
      ∀ slot, slot < slotCount →
        if slot ∈ slots then (topology.assign slots endpoint).2.OwnedBy slot endpoint
        else (topology.assign slots endpoint).2.owner slot = topology.owner slot := by
  rcases assign_cases topology slots endpoint with ⟨shut, _⟩ | ⟨pool, grown, registered, same⟩
  -- Only a closed table registers nobody.
  · simp [accepting] at shut
  · obtain ⟨key, _⟩ := consistent.node?_of_register registered
    rw [same]
    -- Registering the node only adds to the table.
    have kept : grown.closed = false ∧ topology.nodes ⊆ grown.nodes ∧
        (∀ room, topology.Roomy room → grown.Roomy room) ∧
        ∀ slot, grown.owner slot = topology.owner slot := by
      rcases register_cases topology endpoint with ⟨shut, _⟩ | ⟨_, _, _, known⟩ | ⟨_, _, made⟩
      · simp [accepting] at shut
      · -- The node was known, so the table is the same.
        obtain ⟨_, rfl⟩ := Prod.mk.inj (known.symm.trans registered)
        exact ⟨accepting, fun _ member => member, fun _ roomy => roomy, fun _ => rfl⟩
      · -- The node is new, and so is its pool, which has the room of any pool that is made.
        obtain ⟨_, rfl⟩ := Prod.mk.inj (made.symm.trans registered)
        refine ⟨accepting, List.subset_append_left _ _, fun room roomy => ⟨roomy.fresh, ?_⟩,
          fun _ => rfl⟩
        intro id pool found
        rw [pool?_enroll] at found
        split at found
        · rw [← Option.some.inj found]
          exact roomy.fresh
        · exact roomy.made id pool found
    -- The slots are written behind that.
    obtain ⟨still, nodes, roomy, owners⟩ := kept
    refine ⟨still, nodes, fun room was => ⟨(roomy room was).fresh, (roomy room was).made⟩,
      fun slot inside => ?_⟩
    split
    · rename_i given
      exact ⟨pool, by rw [owner_point, if_pos ⟨given, inside⟩], Endpoint.sameNode_iff.2 key⟩
    · rename_i kept
      rw [owner_point, if_neg (fun both => kept both.1), owners]

/-- The ranges of a layout that are placed in an open table one after the other keep the nodes and the
room in their pools, give every slot that they have to its master, and leave all other slots alone. -/
theorem places_open (accepting : topology.closed = false) (consistent : topology.Consistent)
    (ranges : List SlotRange) :
    (ranges.foldl place topology).closed = false ∧
      topology.nodes ⊆ (ranges.foldl place topology).nodes ∧
      (∀ room, topology.Roomy room → (ranges.foldl place topology).Roomy room) ∧
      ∀ slot, slot < slotCount →
        match Layout.master? slot ranges with
        | some master => (ranges.foldl place topology).OwnedBy slot master
        | none => (ranges.foldl place topology).owner slot = topology.owner slot := by
  -- From the front of the layout, so that what a range gives away may be lost to a later one.
  induction ranges generalizing topology with
  -- No range gives nothing away.
  | nil => exact ⟨accepting, fun _ member => member, fun _ roomy => roomy, fun _ _ => rfl⟩
  | cons range rest ih =>
    -- The first range is an assignment to an open table, and so are the others behind it.
    obtain ⟨opened, nodes, roomy, owners⟩ :=
      assign_open accepting consistent range.slots range.master
    have opened : (topology.place range).closed = false := opened
    obtain ⟨still, more, rooms, later⟩ := ih opened (consistent.assign range.slots range.master)
    refine ⟨still, fun _ member => more (nodes member),
      fun room was => rooms room (roomy room was), fun slot inside => ?_⟩
    have given := owners slot inside
    have settled := later slot inside
    rw [Layout.master?]
    cases found : Layout.master? slot rest with
    -- A later range has the last word.
    | some master =>
      rw [found] at settled
      exact settled
    | none =>
      -- No later range has the slot, so it stays with this one or as it was.
      rw [found] at settled
      rw [List.foldl_cons]
      split at given
      · rename_i has
        obtain ⟨pool, owns, same⟩ := given
        rw [if_pos has]
        exact ⟨pool, settled.trans owns, same⟩
      · rename_i lacks
        rw [if_neg lacks]
        exact settled.trans given

/-- A layout that is loaded into an open table takes all slots that it does not have from their
owners. -/
theorem owner_rebuild_of_uncovered (accepting : topology.closed = false)
    (consistent : topology.Consistent) {ranges : List SlotRange} {slot : Nat}
    (inside : slot < slotCount) (uncovered : Layout.master? slot ranges = none) :
    (topology.rebuild ranges).2.owner slot = none := by
  have opened : topology.clearSlots.closed = false := accepting
  obtain ⟨_, _, _, owners⟩ := places_open opened consistent.clearSlots ranges
  have settled := owners slot inside
  -- No range has the slot, so it stays as it was in the cleared table.
  rw [uncovered] at settled
  simpa [Topology.rebuild, accepting] using settled

/-- A layout that is loaded into an open table keeps the nodes and the room in their pools, and gives
every slot that it has to the master. -/
theorem rebuild_open (accepting : topology.closed = false) (consistent : topology.Consistent)
    (ranges : List SlotRange) :
    (topology.rebuild ranges).1 = .ok () ∧ (topology.rebuild ranges).2.closed = false ∧
      topology.nodes ⊆ (topology.rebuild ranges).2.nodes ∧
      (∀ room, topology.Roomy room → (topology.rebuild ranges).2.Roomy room) ∧
      ∀ slot master, slot < slotCount → Layout.master? slot ranges = some master →
        (topology.rebuild ranges).2.OwnedBy slot master := by
  have opened : topology.clearSlots.closed = false := accepting
  obtain ⟨still, nodes, roomy, owners⟩ := places_open opened consistent.clearSlots ranges
  have whole : topology.rebuild ranges = (.ok (), ranges.foldl place topology.clearSlots) := by
    simp [Topology.rebuild, accepting]
  rw [whole]
  -- To clear the owners makes no pool and takes no room.
  refine ⟨rfl, still, nodes, fun room was => roomy room ⟨was.fresh, was.made⟩,
    fun slot master inside given => ?_⟩
  have owned := owners slot inside
  rw [given] at owned
  exact owned

/-- A layout that is loaded says of every slot who owns it. -/
theorem owners_rebuild (accepting : topology.closed = false) (consistent : topology.Consistent)
    (ranges : List SlotRange) {slot : Nat} (inside : slot < slotCount) :
    match Layout.master? slot ranges with
    | some master => (topology.rebuild ranges).2.OwnedBy slot master
    | none => (topology.rebuild ranges).2.owner slot = none := by
  obtain ⟨_, _, _, _, owners⟩ := rebuild_open accepting consistent ranges
  split
  -- The last range that has the slot says who its master is.
  · rename_i master given
    exact owners slot master inside given
  -- No range has it, so it was taken from its owner.
  · rename_i uncovered
    exact owner_rebuild_of_uncovered accepting consistent inside uncovered

end Topology

end RedisCluster
