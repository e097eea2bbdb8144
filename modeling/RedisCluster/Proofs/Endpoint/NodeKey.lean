import RedisCluster.Endpoint

/-! The key of a node identifies it: two spellings share a key exactly when they name one node. -/

namespace RedisCluster

/-- Texts are cut at their first colon in one way only. -/
private theorem cut_at_first_colon {back front tail head : List Char} (plain : ':' ∉ back)
    (bare : ':' ∉ tail) (same : back ++ ':' :: front = tail ++ ':' :: head) :
    back = tail ∧ front = head := by
  -- Neither part before the colon can reach past the colon of the other text.
  induction back generalizing tail with
  | nil =>
    cases tail with
    | nil => simpa using same
    | cons c rest =>
      -- The other part would begin with the colon.
      simp only [List.nil_append, List.cons_append, List.cons.injEq] at same
      exact absurd (same.1 ▸ List.mem_cons_self) bare
  | cons c rest ih =>
    cases tail with
    | nil =>
      simp only [List.nil_append, List.cons_append, List.cons.injEq] at same
      exact absurd (same.1 ▸ List.mem_cons_self) plain
    | cons d others =>
      simp only [List.cons_append, List.cons.injEq] at same
      obtain ⟨rfl, tails⟩ := same
      obtain ⟨rfl, rfl⟩ := ih (fun inside => plain (by simp [inside]))
        (fun inside => bare (by simp [inside])) tails
      exact ⟨rfl, rfl⟩

/-- The decimal digits of a number hold no colon. -/
theorem colon_notMem_toDigits (n : Nat) : ':' ∉ Nat.toDigits 10 n := by
  intro member
  have digit := Nat.isDigit_of_mem_toDigits (by decide) (by decide) member
  simp at digit

/-- A number can be read off its decimal digits. -/
private theorem toDigits_injective {m n : Nat} (same : Nat.toDigits 10 m = Nat.toDigits 10 n) :
    m = n := by
  rw [← Nat.ofDigitChars_ten_toDigits (n := m), same, Nat.ofDigitChars_ten_toDigits]

/-- The host as a joined text shows it. -/
def shownHost (host : String) : List Char :=
  if ':' ∈ host.toList then '[' :: (host.toList ++ [']']) else host.toList

/-- A host and its port are joined by a colon. -/
theorem joinHostPort_toList (host : String) (port : UInt16) :
    (joinHostPort host port).toList =
      shownHost host ++ ':' :: Nat.toDigits 10 port.toNat := by
  by_cases colon : ':' ∈ host.toList <;> simp [joinHostPort, shownHost, colon]

/-- A host can be read off the form in which it is shown. -/
private theorem shownHost_injective {host other : String} (same : shownHost host = shownHost other) :
    host = other := by
  -- A shown host has a colon exactly if the host has one, and exactly then it has brackets.
  apply String.toList_inj.1
  unfold shownHost at same
  split at same <;> split at same
  · simpa using same
  · rename_i colon plain
    exact absurd (by simp [← same, colon]) plain
  · rename_i plain colon
    exact absurd (by simp [same, colon]) plain
  · exact same

/-- A joined text determines its host and its port. -/
theorem joinHostPort_inj {host other : String} {port entry : UInt16} :
    joinHostPort host port = joinHostPort other entry ↔ host = other ∧ port = entry := by
  constructor
  · intro same
    have texts := congrArg (List.reverse ∘ String.toList) same
    simp only [Function.comp, joinHostPort_toList, List.reverse_append, List.reverse_cons,
      List.append_assoc, List.singleton_append] at texts
    -- Read from its end, the text shows the digits of the port up to the first colon.
    obtain ⟨digits, hosts⟩ := cut_at_first_colon
      (by simpa using colon_notMem_toDigits port.toNat)
      (by simpa using colon_notMem_toDigits entry.toNat) texts
    have ports := toDigits_injective (List.reverse_inj.1 digits)
    exact ⟨shownHost_injective (List.reverse_inj.1 hosts), UInt16.toNat_inj.1 ports⟩
  -- The same host and the same port make the same text.
  · rintro ⟨rfl, rfl⟩
    rfl

/-- Two endpoints have one key exactly when they name one node. -/
theorem Endpoint.sameNode_iff {a b : Endpoint} : a.sameNode b = true ↔ a.nodeKey = b.nodeKey := by
  simp only [sameNode, nodeKey, joinHostPort_inj, Bool.and_eq_true, beq_iff_eq]
  exact and_comm

end RedisCluster
