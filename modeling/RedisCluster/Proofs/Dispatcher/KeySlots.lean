import RedisCluster.Proofs.Client.Business
import RedisCluster.Proofs.Dispatcher.Budget
import RedisCluster.Proofs.Program.History

/-! Commands go by the slots of their keys: keys in different slots are refused before anything
happens, and otherwise the one slot of the keys is the only one that is looked up. -/

namespace RedisCluster

variable {keys : List Bytes} {slot : Nat} {error : ClientError}

/-- The first key lies in one slot, and the earliest key that lies elsewhere in another one. -/
def Clash (keys : List Bytes) (first second : Nat) : Prop :=
  ∃ head front stray rest, keys = head :: (front ++ stray :: rest) ∧ keySlot head = first ∧
    (∀ key ∈ front, keySlot key = first) ∧ keySlot stray = second ∧ second ≠ first

/-- Keys are accepted for a slot exactly if each of them lies in it. -/
theorem allInSlot_eq_ok_iff :
    allInSlot slot keys = .ok () ↔ ∀ key ∈ keys, keySlot key = slot := by
  -- The keys are judged one after the other.
  induction keys with
  | nil => simp [allInSlot]
  | cons key rest ih =>
    rw [allInSlot, List.forall_mem_cons]
    -- A key that lies in the slot leaves the judgement to the others.
    by_cases inside : keySlot key = slot
    · rw [if_pos inside, ih]
      exact (and_iff_right inside).symm
    · simp [inside]

/-- Keys are refused for a slot on account of the earliest one that lies elsewhere. -/
theorem allInSlot_eq_error_iff :
    allInSlot slot keys = .error error ↔
      ∃ front stray rest, keys = front ++ stray :: rest ∧ (∀ key ∈ front, keySlot key = slot) ∧
        keySlot stray ≠ slot ∧ error = .crossSlot slot (keySlot stray) := by
  constructor
  · intro refused
    induction keys with
    | nil => simp [allInSlot] at refused
    | cons key rest ih =>
      rw [allInSlot] at refused
      split at refused
      · rename_i inside
        -- A key in the slot joins the front of those before the stray one.
        obtain ⟨front, stray, behind, rfl, shared, apart, same⟩ := ih refused
        exact ⟨key :: front, stray, behind, rfl, List.forall_mem_cons.2 ⟨inside, shared⟩, apart,
          same⟩
      · -- The key at hand is the earliest stray one.
        rename_i outside
        exact ⟨[], key, rest, rfl, nofun, outside, (Except.error.inj refused).symm⟩
  · rintro ⟨front, stray, rest, rfl, shared, apart, rfl⟩
    -- Going over the front changes nothing, and the stray key is refused.
    induction front with
    | nil => rw [List.nil_append, allInSlot, if_neg apart]
    | cons key front ih =>
      obtain ⟨inside, others⟩ := List.forall_mem_cons.1 shared
      rw [List.cons_append, allInSlot, if_pos inside]
      exact ih others

/-- Keys are refused exactly if two of them clash, and the error names the slots of the clash. -/
theorem slotForKeys_eq_error_iff :
    slotForKeys keys = .error error ↔
      ∃ first second, Clash keys first second ∧ error = .crossSlot first second := by
  cases keys with
  -- Without keys nothing can clash.
  | nil =>
    constructor
    · nofun
    · rintro ⟨_, _, ⟨_, _, _, _, same, _⟩, _⟩
      cases same
  | cons key rest =>
    -- The first key sets the slot, and the others are judged by it.
    have refused : slotForKeys (key :: rest) = .error error ↔
        allInSlot (keySlot key) rest = .error error := by
      cases judged : allInSlot (keySlot key) rest <;> simp [slotForKeys, judged]
    rw [refused, allInSlot_eq_error_iff]
    constructor
    · rintro ⟨front, stray, behind, rfl, shared, apart, rfl⟩
      exact ⟨_, _, ⟨key, front, stray, behind, rfl, rfl, shared, rfl, apart⟩, rfl⟩
    -- Of a clash the head is the first key, and the stray one is found behind it.
    · rintro ⟨_, _, ⟨head, front, stray, behind, same, rfl, shared, rfl, apart⟩, rfl⟩
      obtain ⟨rfl, rfl⟩ := List.cons.inj same
      exact ⟨front, stray, behind, rfl, shared, apart, rfl⟩

/-- Keys are routed to a slot exactly if there are any and each of them lies in it. -/
theorem slotForKeys_eq_some_iff :
    slotForKeys keys = .ok (some slot) ↔ keys ≠ [] ∧ ∀ key ∈ keys, keySlot key = slot := by
  cases keys with
  | nil => simp [slotForKeys]
  | cons key rest =>
    -- The slot is that of the first key, provided that the others lie in it.
    have routed : slotForKeys (key :: rest) = .ok (some slot) ↔
        keySlot key = slot ∧ allInSlot (keySlot key) rest = .ok () := by
      cases judged : allInSlot (keySlot key) rest <;> simp [slotForKeys, judged]
    rw [routed, allInSlot_eq_ok_iff, List.forall_mem_cons]
    constructor
    · rintro ⟨rfl, shared⟩
      exact ⟨List.cons_ne_nil _ _, rfl, shared⟩
    · rintro ⟨_, rfl, shared⟩
      exact ⟨rfl, shared⟩

/-- Only without keys there is neither a slot nor an error. -/
theorem slotForKeys_eq_none_iff : slotForKeys keys = .ok none ↔ keys = [] := by
  cases keys with
  | nil => simp [slotForKeys]
  -- A first key leads to its slot or to an error.
  | cons key rest => cases judged : allInSlot (keySlot key) rest <;> simp [slotForKeys, judged]

/-- A step that looks up the owner of one slot at most. -/
abbrev Op.LooksUp (slot : Option Nat) (op : Op) : Prop :=
  ∀ looked, op = .owner looked → slot = some looked

namespace Dispatcher

variable {others : ClientState → ClientState → Prop} {dispatcher : Dispatcher}
  {state last : ClientState} {trace : Trace} {result : Except ClientError Frame}

/-- However many attempts are made, no slot but that of the command is looked up. -/
theorem run_looksUp (dispatcher : Dispatcher) (slot : Option Nat) (frame : Frame)
    (remaining : Nat) (progress : Progress) :
    (dispatcher.run slot frame remaining progress).Within (Op.LooksUp slot) := by
  -- Neither who looks for a node that is alive nor who loads the layout anew looks up any slot.
  have sounding : ∀ op : Op, op.isSounding = true → op.LooksUp slot := by
    rintro _ sounding _ rfl
    cases sounding
  have reloading : ∀ op : Op, op.isReloading = true → op.LooksUp slot := by
    rintro _ reloading _ rfl
    cases reloading
  -- Choosing a pool looks up the slot of the command and nothing else.
  have chosen : ∀ route, (dispatcher.choose slot route).Within (Op.LooksUp slot) := by
    refine fun route => choose_within dispatcher route ?_ nofun (fun _ => nofun) (fun _ => nofun)
      sounding reloading
    rintro own keyed _ ⟨⟩
    exact keyed
  have attempted : ∀ pool asking, (attempt pool frame asking).Within (Op.LooksUp slot) :=
    -- An attempt works on a pool and a connection, and looks up no slot.
    fun pool asking => attempt_within pool
      (Program.acquire_within pool nofun (fun _ => nofun) (fun _ => nofun) fun _ => nofun)
      (fun _ lease => Program.request_within lease _ nofun nofun)
      (fun lease => Program.request_within lease _ nofun nofun)
      fun lease => Program.release_within lease fun _ _ => nofun
  -- Both kinds of steps that do look something up have been accounted for, and the rest do not.
  exact run_induction (fun _ program => program.Within (Op.LooksUp slot)) (fun _ => trivial)
    (fun first rest => first.bind rest) ⟨nofun, fun _ => trivial⟩ chosen attempted
    (fun _ _ => ⟨nofun, fun _ => trivial⟩)
    (fun preferred => (Discovery.rediscover_reloading _ preferred).mono reloading) remaining progress

/-- Every error of a command is the verdict on its attempts, says that there is no node to turn to,
or comes from a node. -/
theorem ItineraryAmid.origin {slot : Option Nat} {frame : Frame} {remaining : Nat}
    {progress : Progress} {legs : List Leg} {error : ClientError}
    (itinerary : dispatcher.ItineraryAmid others slot frame remaining progress state legs trace
      (.error error) last) :
    error.isExhaustion = true ∨ Unrouted error ∨ Blamed trace error := by
  -- An error that is no verdict has stopped the command in one of three places.
  rcases itinerary.stopped with verdict | stopped
  · exact .inl verdict
  · cases stopped with
    -- The way to an attempt fails only if there is no node to turn to.
    | unrouted travels aimed => exact .inr (.inl (aimed.yields (aim_yields _ _ _) error rfl))
    | failed travels made failed =>
      -- The attempt that failed is the last one of the trace.
      refine .inr (.inr ((made.ran.cases.1 error failed).mono fun exchange member => ?_))
      simp [member]
    | unassigned travels made redirected => exact .inr (.inl (.inl rfl))

/-- A command whose keys do not lie in one slot is refused: it takes no step at all, and the error
names the slot of its first key and that of the earliest key that lies elsewhere. A command whose
keys share a slot is never refused so by the client, unless a node fails with such an error of its
own; and no slot but that one is looked up for it. -/
theorem execute_goes_by_keys (dispatcher : Dispatcher) (command : Command) :
    ((¬ ∃ slot, ∀ key ∈ command.keys, keySlot key = slot) →
      ∃ first second, Clash command.keys first second ∧
        ∀ others state trace result last,
          Program.Amid others (dispatcher.execute command) state trace result last ↔
            trace = [] ∧ result = .error (.crossSlot first second) ∧ last = state) ∧
    ∀ slot, (∀ key ∈ command.keys, keySlot key = slot) →
      ∀ others state trace result last,
        Program.Amid others (dispatcher.execute command) state trace result last →
          (∀ first second, result = .error (.crossSlot first second) →
            ∃ exchange ∈ trace, exchange.failure? = some (.crossSlot first second)) ∧
          ∀ exchange ∈ trace, ∀ looked, exchange.op = .owner looked → looked = slot := by
  constructor
  · intro apart
    rcases judged : slotForKeys command.keys with error | _ | slot
    -- The keys clash, so the command is over before its first step.
    · obtain ⟨first, second, clash, rfl⟩ := slotForKeys_eq_error_iff.1 judged
      have refused : dispatcher.execute command = .done (.error (.crossSlot first second)) := by
        simp [execute, Command.slot, judged]
      refine ⟨first, second, clash, fun others state trace result last => ?_⟩
      rw [refused]
      exact Program.amid_done_iff
    · -- No keys share any slot.
      rw [slotForKeys_eq_none_iff] at judged
      exact absurd ⟨0, by simp [judged]⟩ apart
    -- Keys with a slot in common would all lie in it, against what was assumed.
    · exact absurd ⟨slot, (slotForKeys_eq_some_iff.1 judged).2⟩ apart
  · intro slot shared others state trace result last run
    -- The command is routed to that slot, or to none if it has no keys.
    obtain ⟨found, routable, only⟩ : ∃ found, command.slot = .ok found ∧
        ∀ looked, found = some looked → looked = slot := by
      by_cases keyless : command.keys = []
      · refine ⟨none, slotForKeys_eq_none_iff.2 keyless, fun looked same => ?_⟩
        cases same
      · refine ⟨some slot, slotForKeys_eq_some_iff.2 ⟨keyless, shared⟩, fun looked same => ?_⟩
        cases same
        rfl
    simp only [execute, routable] at run
    constructor
    · rintro first second rfl
      obtain ⟨legs, itinerary⟩ := run_amid_iff.1 run
      -- An error that names two slots can only be a failure that a node came up with.
      rcases itinerary.origin with verdict | (closed | ⟨cause, alone⟩) | (reported | theirs)
      · cases verdict
      · cases closed
      · cases alone
      · cases reported
      · exact theirs
    · intro exchange member looked same
      exact only looked (run.within (run_looksUp _ _ _ _ _) exchange member looked same)

/-- A command for several keys, where one node is known, which answers everything alike. -/
def gathering (keys : List String) : Except ClientError Frame × ClientState × Trace :=
  Program.play (Op.surroundings (fun _ => .ok ()) fun _ _ => .ok (.simple "PONG"))
    ((Dispatcher.new .identity 2).execute (.mget (keys.map Utf8.encode)))
    ((ClientState.initial {}).perform (.register ⟨"127.0.0.1", 7000⟩) ()).2

/-- The third key is the first that has left the slot of the others; without it that slot is looked
up. -/
theorem execute_goes_by_keys_of_stray :
    (gathering ["foo", "{foo}.a", "bar", "b"]).1 = .error (.crossSlot 12182 5061) ∧
      (gathering ["foo", "{foo}.a", "bar", "b"]).2.2 = [] ∧
      (∃ exchange ∈ (gathering ["foo", "{foo}.a"]).2.2, exchange.op = .owner 12182) ∧
      ∀ exchange ∈ (gathering ["foo", "{foo}.a"]).2.2, ∀ looked,
        exchange.op = .owner looked → looked = 12182 := by
  -- The first key and the third lie in different slots.
  have apart : ¬ ∃ slot,
      ∀ key ∈ (Command.mget (["foo", "{foo}.a", "bar", "b"].map Utf8.encode)).keys,
        keySlot key = slot := by
    rintro ⟨slot, shared⟩
    have first : keySlot (Utf8.encode "foo") = slot := shared _ (.head _)
    have third : keySlot (Utf8.encode "bar") = slot := shared _ (.tail _ (.tail _ (.head _)))
    exact absurd (first.trans third.symm) (by decide +kernel)
  have shared : ∀ key ∈ (Command.mget (["foo", "{foo}.a"].map Utf8.encode)).keys,
      keySlot key = 12182 := by
    decide +kernel
  have refused : (gathering ["foo", "{foo}.a", "bar", "b"]).1 = .error (.crossSlot 12182 5061) := by
    decide +kernel
  have looked : ∃ exchange ∈ (gathering ["foo", "{foo}.a"]).2.2, exchange.op = .owner 12182 := by
    decide +kernel
  -- The error and the empty trace are those that the theorem gives.
  obtain ⟨first, second, -, runs⟩ := (execute_goes_by_keys (Dispatcher.new .identity 2) _).1 apart
  have alone : ∀ keys, Program.Alone ((Dispatcher.new .identity 2).execute
      (.mget (keys.map Utf8.encode))) _ (gathering keys).2.2 (gathering keys).1
        (gathering keys).2.1 := fun keys => Program.alone_play _ _ _
  exact ⟨refused, ((runs _ _ _ _ _).1 (alone _)).1, looked,
    ((execute_goes_by_keys _ _).2 12182 shared _ _ _ _ _ (alone _)).2⟩

end Dispatcher

end RedisCluster
