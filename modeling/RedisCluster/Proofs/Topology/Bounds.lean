import RedisCluster.Proofs.Topology.Shut

/-! Rebuilding a table in which no slot is out of bounds: where a rebuild that would stop at such a
slot goes through. -/

namespace RedisCluster.Topology

/-- Gives slots to a pool one after the other, and stops at a number that the table has no place
for. -/
def fill? (pool : PoolRef) : List Nat → Vector (Option PoolRef) slotCount →
    Option (Vector (Option PoolRef) slotCount)
  | [], table => some table
  | slot :: rest, table =>
    if inside : slot < slotCount then fill? pool rest (table.set slot (some pool)) else none

/-- Gives the slots of a range to its master, and stops at a slot that there is not. -/
def place? (topology : Topology) (range : SlotRange) : Option Topology :=
  match topology.register range.master with
  | (.error _, same) => some same
  | (.ok pool, grown) =>
    (fill? pool range.slots grown.slots).map fun slots => { grown with slots }

/-- Gives the slots of ranges to their masters, and stops at a slot that there is not. -/
def placeAll? : Topology → List SlotRange → Option Topology
  | topology, [] => some topology
  | topology, range :: rest => (topology.place? range).bind fun placed => placed.placeAll? rest

/-- Replaces the owners of all slots by the masters of a layout, and stops at a slot that there is
not. -/
def rebuild? (topology : Topology) (ranges : List SlotRange) :
    Option (Except ClientError Unit × Topology) :=
  if topology.closed then some (.error .clientClosed, topology)
  else (topology.clearSlots.placeAll? ranges).map fun placed => (.ok (), placed)

/-- Filling a table goes through exactly if it has a place for each slot, and then none is passed
over. -/
theorem fill?_eq_some_iff {pool : PoolRef} {slots : List Nat}
    {table filled : Vector (Option PoolRef) slotCount} :
    fill? pool slots table = some filled ↔
      (∀ slot ∈ slots, slot < slotCount) ∧
        slots.foldl (fun table slot => table.setIfInBounds slot (some pool)) table = filled := by
  -- The table changes with each slot, so the induction is over all of them.
  induction slots generalizing table with
  | nil => simp [fill?]
  | cons slot rest ih =>
    rw [fill?, List.forall_mem_cons, List.foldl_cons]
    split
    · rename_i inside
      -- Where there is a place, passing over and stopping come to the same.
      have stored : table.setIfInBounds slot (some pool) = table.set slot (some pool) := by
        simp [Vector.setIfInBounds, Vector.set, Array.setIfInBounds, inside]
      simp only [ih, stored, inside, true_and]
    · rename_i outside
      simp only [outside, false_and, reduceCtorEq]

/-- Placing a range goes through exactly if it has only slots that there are. -/
theorem place?_eq_some_iff {topology placed : Topology} (accepting : topology.closed = false)
    {range : SlotRange} :
    topology.place? range = some placed ↔
      (∀ slot ∈ range.slots, slot < slotCount) ∧ topology.place range = placed := by
  rw [place?, place, assign]
  cases registered : topology.register range.master with
  | mk answer grown =>
    cases answer with
    | error error =>
      -- An open table registers every master.
      obtain ⟨shut, -⟩ := register_error registered
      simp [accepting] at shut
    | ok pool =>
      simp only [Option.map_eq_some_iff, fill?_eq_some_iff, point]
      constructor
      -- The slots that are filled are those that are written, one after the other.
      · rintro ⟨filled, ⟨inside, rfl⟩, rfl⟩
        exact ⟨inside, rfl⟩
      · rintro ⟨inside, rfl⟩
        exact ⟨_, ⟨inside, rfl⟩, rfl⟩

/-- Placing a range opens no table and closes none. -/
theorem closed_place (topology : Topology) (range : SlotRange) :
    (topology.place range).closed = topology.closed :=
  Tidy.closed_assign topology range.slots range.master

/-- Placing ranges goes through exactly if they have only slots that there are. -/
theorem placeAll?_eq_some_iff {ranges : List SlotRange} {topology placed : Topology}
    (accepting : topology.closed = false) :
    topology.placeAll? ranges = some placed ↔
      (∀ range ∈ ranges, ∀ slot ∈ range.slots, slot < slotCount) ∧
        ranges.foldl place topology = placed := by
  induction ranges generalizing topology with
  | nil => simp [placeAll?]
  | cons range rest ih =>
    rw [placeAll?, List.forall_mem_cons, List.foldl_cons, Option.bind_eq_some_iff]
    -- The table stays open for the other ranges.
    have open_still : (topology.place range).closed = false := by
      rw [closed_place, accepting]
    constructor
    · rintro ⟨middle, first, others⟩
      obtain ⟨inside, rfl⟩ := (place?_eq_some_iff accepting).1 first
      obtain ⟨all, rfl⟩ := (ih open_still).1 others
      exact ⟨⟨inside, all⟩, rfl⟩
    · rintro ⟨⟨inside, all⟩, rfl⟩
      exact ⟨_, (place?_eq_some_iff accepting).2 ⟨inside, rfl⟩, (ih open_still).2 ⟨all, rfl⟩⟩

/-- A rebuild that stops at slots that there are not goes through exactly if the table is closed or
the layout has no such slot, and then it is the rebuild that passes over them. -/
theorem rebuild?_eq_some_iff {topology : Topology} {ranges : List SlotRange}
    {outcome : Except ClientError Unit × Topology} :
    topology.rebuild? ranges = some outcome ↔
      (topology.closed = true ∨ ∀ range ∈ ranges, ∀ slot ∈ range.slots, slot < slotCount) ∧
        topology.rebuild ranges = outcome := by
  rw [rebuild?, rebuild]
  by_cases shut : topology.closed = true
  · simp only [shut, if_true, true_or, true_and, Option.some.injEq]
  · -- Taking the owners away leaves an open table open.
    have cleared : topology.clearSlots.closed = false := Bool.eq_false_iff.2 shut
    rw [if_neg shut, if_neg shut, Option.map_eq_some_iff, or_iff_right shut]
    simp only [placeAll?_eq_some_iff cleared]
    constructor
    · rintro ⟨placed, ⟨inside, rfl⟩, rfl⟩
      exact ⟨inside, rfl⟩
    · rintro ⟨inside, rfl⟩
      exact ⟨_, ⟨inside, rfl⟩, rfl⟩

/-- No slot of a range lies behind its last one. -/
theorem lt_of_mem_slots {range : SlotRange} (bounded : range.last < slotCount) :
    ∀ slot ∈ range.slots, slot < slotCount := by
  intro slot member
  -- A slot of the range is at most its last one.
  obtain ⟨_, least⟩ := List.mem_range'_1.1 member
  omega

end RedisCluster.Topology
