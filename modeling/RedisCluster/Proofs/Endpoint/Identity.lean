import Mathlib
import RedisCluster.Proofs.Endpoint.Redirected
import RedisCluster.Proofs.Topology.Calls
import RedisCluster.Proofs.Topology.Shut

/-! The identity of nodes: equality of endpoints, their hashes and their keys agree under every
spelling of a host. -/

namespace RedisCluster

section Canonical

/-- Nothing becomes a character that is no letter but this character. -/
theorem toLower_eq_iff {c other : Char} (other_no_letter : other.isAlpha = false) :
    c.toLower = other ↔ c = other := by
  -- Casing keeps letters letters, and leaves all other characters alone.
  have kept (no_letter : c.isAlpha = false) : c.toLower = c := by
    refine Char.toLower_eq_of_not_isUpper fun upper => ?_
    simp [Char.isAlpha, upper] at no_letter
  constructor
  · rintro rfl
    -- A character whose casing is no letter is no letter itself.
    rw [Char.isAlpha_toLower_eq_isAlpha] at other_no_letter
    exact (kept other_no_letter).symm
  · rintro rfl
    exact kept other_no_letter

/-- Casing changes no bracket into anything else, and nothing into a bracket. -/
theorem stripBrackets_map_toLower (host : List Char) :
    stripBrackets (host.map Char.toLower) = (stripBrackets host).map Char.toLower := by
  -- Brackets are no letters.
  have opening : (fun c : Char => c == '[') ∘ Char.toLower = (· == '[') := by
    funext c
    simp only [Function.comp, Bool.beq_eq_decide_eq, toLower_eq_iff (rfl : '['.isAlpha = false)]
  have closing : (fun c : Char => c == ']') ∘ Char.toLower = (· == ']') := by
    funext c
    simp only [Function.comp, Bool.beq_eq_decide_eq, toLower_eq_iff (rfl : ']'.isAlpha = false)]
  simp only [stripBrackets, dropEndWhile, List.dropWhile_map, ← List.map_reverse, opening, closing]

/-- A host without brackets and capitals is its own canonical spelling, unless it is the loopback
host. -/
theorem canonicalHost_of_plain {host : String}
    (plain : (stripBrackets host.toList).map Char.toLower = host.toList) :
    canonicalHost host = if loopbackHosts.contains host then "localhost" else host := by
  simp only [canonicalHost, plain, String.ofList_toList]

/-- The canonical spelling of a host is its own canonical spelling. -/
theorem canonicalHost_idem (host : String) :
    canonicalHost (canonicalHost host) = canonicalHost host := by
  let plain := String.ofList ((stripBrackets host.toList).map Char.toLower)
  have spelled : canonicalHost host = if loopbackHosts.contains plain then "localhost" else plain :=
    rfl
  rw [spelled]
  split
  -- The loopback host has one canonical spelling.
  · decide
  · rename_i elsewhere
    -- Neither the brackets nor the capitals come back.
    have stays : (stripBrackets plain.toList).map Char.toLower = plain.toList := by
      simp only [plain, String.toList_ofList, stripBrackets_map_toLower, stripBrackets_idem,
        List.map_map, Function.comp_def, Char.toLower_toLower_eq_toLower]
    rw [canonicalHost_of_plain stays, if_neg elsewhere]

end Canonical

/-- What texts and numbers are fed to one after the other, to be summed up in a state. -/
structure Hasher (State : Type) where
  takeText : State → String → State
  takeNumber : State → UInt16 → State

namespace Endpoint

variable {a b c : Endpoint}

/-- The state of a hasher once it was fed an endpoint. -/
def hash {State : Type} (hasher : Hasher State) (state : State) (endpoint : Endpoint) : State :=
  hasher.takeNumber (hasher.takeText state (canonicalHost endpoint.host)) endpoint.port

/-- Endpoints name the same node exactly if no hasher tells them apart. -/
theorem sameNode_iff_hash : a.sameNode b = true ↔
    ∀ (State : Type) (hasher : Hasher State) (state : State),
      hash hasher state a = hash hasher state b := by
  simp only [sameNode, Bool.and_eq_true, beq_iff_eq]
  constructor
  -- They are fed the same text and the same number.
  · rintro ⟨ports, hosts⟩ State hasher state
    rw [hash, hash, ports, hosts]
  · intro alike
    -- A hasher that writes down all that it is fed tells the most endpoints apart.
    have written := alike (List (String ⊕ UInt16))
      ⟨fun state text => state ++ [.inl text], fun state number => state ++ [.inr number]⟩ []
    simpa [hash, and_comm] using written

/-- Naming the same node is an equivalence. -/
theorem equivalence_sameNode : Equivalence fun a b : Endpoint => a.sameNode b = true where
  refl _ := sameNode_iff.2 rfl
  symm same := sameNode_iff.2 (sameNode_iff.1 same).symm
  trans same next := sameNode_iff.2 ((sameNode_iff.1 same).trans (sameNode_iff.1 next))

end Endpoint

namespace Topology

variable {topology grown : Topology} {a b : Endpoint} {pool : PoolRef}

/-- A node that was registered is found under each of its spellings, and under no other. -/
theorem node?_of_registered (registered : topology.register a = (.ok pool, grown)) :
    grown.node? b.nodeKey =
      if a.sameNode b = true then some pool else topology.node? b.nodeKey := by
  -- A table that is shut registers nobody.
  rcases register_cases topology a with
    -- A node that is known stays as it is.
    ⟨_, same⟩ | ⟨_, known, found, same⟩ | ⟨_, unknown, made⟩
  · simp [same] at registered
  · simp only [same, Prod.mk.injEq, Except.ok.injEq] at registered
    obtain ⟨rfl, rfl⟩ := registered
    split
    · rename_i alike
      -- Under this key the pool was there before.
      rw [← Endpoint.sameNode_iff.1 alike]
      exact found
    · rfl
  · simp only [made, Prod.mk.injEq, Except.ok.injEq] at registered
    obtain ⟨rfl, rfl⟩ := registered
    -- The new entry stands behind the others, of which none has its key.
    have looked : (topology.enroll a).node? b.nodeKey = (topology.node? b.nodeKey).or
        (if a.sameNode b = true then some ⟨topology.pools.size, a⟩ else none) := by
      by_cases alike : a.sameNode b = true
      · simp [node?, enroll, List.lookup_append, alike, Endpoint.sameNode_iff.1 alike]
      · have other : b.nodeKey ≠ a.nodeKey := fun key => alike (Endpoint.sameNode_iff.2 key.symm)
        have unequal : (b.nodeKey == a.nodeKey) = false := by simpa using other
        simp [node?, enroll, List.lookup_append, List.lookup_cons, alike, unequal]
    rw [looked]
    split
    -- Had the other spelling been known, this one would have been.
    · rename_i alike
      have absent : topology.node? b.nodeKey = none := by
        rw [← Endpoint.sameNode_iff.1 alike]
        exact unknown
      rw [absent, Option.none_or]
    · rw [Option.or_none]

/-- A node that was registered is not registered again under another spelling. -/
theorem register_of_registered (registered : topology.register a = (.ok pool, grown))
    (same : a.sameNode b = true) : grown.register b = (.ok pool, grown) := by
  -- The table finds what it has just registered.
  have found : grown.lookup b = some pool := by
    rw [lookup, node?_of_registered registered, if_pos same]
  -- Only an open table has registered anything, and it is open still.
  have still : grown.closed = topology.closed := by
    have kept := Tidy.closed_register topology a
    rwa [registered] at kept
  have accepting : grown.closed = false := by
    rw [still]
    rcases register_cases topology a with ⟨_, refused⟩ | ⟨accepting, _⟩ | ⟨accepting, _⟩
    · simp [registered] at refused
    · exact accepting
    · exact accepting
  simp [register, accepting, found]

/-- Whoever is found under the key of a node is this node, under some spelling. -/
theorem Consistent.sameNode_of_node? (consistent : topology.Consistent)
    (found : topology.node? a.nodeKey = some pool) : pool.endpoint.sameNode a = true :=
  Endpoint.sameNode_iff.2 (consistent.nodeKey_of_lookup found)

/-- Endpoints are equal exactly if their keys are, and exactly if they hash alike whatever the
hasher; being equal is an equivalence, and canonical spellings are canonical. So after any calls in
a row, one entry of the table is found under all spellings of a node and under no other, and in
an open table a node that is registered under one spelling is found, and not registered again, under
all of its spellings, while other nodes are found as before. -/
theorem keys_identify_nodes :
    (∀ a b : Endpoint, a.sameNode b = true ↔ a.nodeKey = b.nodeKey) ∧
    (∀ a b : Endpoint, a.sameNode b = true ↔ ∀ (State : Type) (hasher : Hasher State)
      (state : State), Endpoint.hash hasher state a = Endpoint.hash hasher state b) ∧
    (Equivalence fun a b : Endpoint => a.sameNode b = true) ∧
    (∀ host, canonicalHost (canonicalHost host) = canonicalHost host) ∧
    ∀ (config : PoolConfig) (handed : List PoolRef) (state : ClientState),
      Reached config handed state →
      (∀ (a b : Endpoint) (pool : PoolRef), state.topology.node? a.nodeKey = some pool →
        (state.topology.node? b.nodeKey = some pool ↔ a.sameNode b = true)) ∧
      (state.topology.closed = false → ∀ a : Endpoint, ∃ pool grown,
        state.topology.register a = (.ok pool, grown) ∧ ∀ b : Endpoint,
          grown.node? b.nodeKey =
              (if a.sameNode b = true then some pool else state.topology.node? b.nodeKey) ∧
            (a.sameNode b = true → grown.register b = (.ok pool, grown))) := by
  refine ⟨fun _ _ => Endpoint.sameNode_iff, fun _ _ => Endpoint.sameNode_iff_hash,
    Endpoint.equivalence_sameNode, canonicalHost_idem, fun config handed state reached => ?_⟩
  have consistent := reached.consistent.1
  refine ⟨fun a b pool found => ⟨fun also => ?_, fun same => ?_⟩, fun accepting a => ?_⟩
  · -- Both are the node of the one pool.
    have one := consistent.sameNode_of_node? found
    have other := consistent.sameNode_of_node? also
    exact Endpoint.equivalence_sameNode.trans (Endpoint.equivalence_sameNode.symm one) other
  · rwa [← Endpoint.sameNode_iff.1 same]
  -- The table is open, so the node is known or new.
  · rcases register_cases state.topology a with ⟨shut, _⟩ | ⟨_, pool, _, same⟩ | ⟨_, _, made⟩
    · simp [accepting] at shut
    · exact ⟨pool, _, same, fun b => ⟨node?_of_registered same, register_of_registered same⟩⟩
    · exact ⟨_, _, made, fun b => ⟨node?_of_registered made, register_of_registered made⟩⟩

/-- The spellings of the loopback host lead to one entry, and another port to none. -/
theorem keys_identify_nodes_loopback :
    ∃ pool grown, (ClientState.initial {}).topology.register ⟨"[::1]", 7000⟩ = (.ok pool, grown) ∧
      grown.node? (Endpoint.nodeKey ⟨"LocalHost", 7000⟩) = some pool ∧
      grown.register ⟨"127.0.0.1", 7000⟩ = (.ok pool, grown) ∧
      grown.node? (Endpoint.nodeKey ⟨"[::1]", 7001⟩) = none := by
  -- The table is that of a client which has done nothing.
  obtain ⟨-, opened⟩ := keys_identify_nodes.2.2.2.2 {} [] _ .start
  obtain ⟨pool, grown, registered, found⟩ := opened rfl ⟨"[::1]", 7000⟩
  refine ⟨pool, grown, registered, ?_, (found ⟨"127.0.0.1", 7000⟩).2 (by decide), ?_⟩
  · rw [(found ⟨"LocalHost", 7000⟩).1, if_pos (by decide)]
  · rw [(found ⟨"[::1]", 7001⟩).1, if_neg (by decide)]
    rfl

end Topology

end RedisCluster
