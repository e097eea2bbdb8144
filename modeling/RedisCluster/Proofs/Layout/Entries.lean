import Mathlib.Data.List.Forall2
import RedisCluster.Proofs.Endpoint.Naming

/-! What the entries of a layout report: which of them describe a range, which nodes they name, and
which of them spoil the layout. -/

namespace RedisCluster

namespace Layout

/-- A field locates an endpoint: a host and a port stand in front, whatever follows. A host that is
empty or unknown is that of the node which was asked. -/
inductive Locates (queried : Endpoint) : Frame → Endpoint → Prop where
  | node {host : Frame} {port : Int64} {more : List Frame} {text : String} {endpoint : Endpoint}
      (read : host.asText = some text) (numbered : port.toInt = endpoint.port.toNat)
      (spelled : endpoint.host = if text = "" ∨ text = "?" then queried.host else text) :
      Locates queried (.array (host :: .integer port :: more)) endpoint

/-- Why a field locates no endpoint. -/
inductive Stray : Frame → ClientError → Prop where
  | scalar {field : Frame} (single : ∀ parts, field ≠ .array parts) :
      Stray field (.protocol "CLUSTER SLOTS node entry must be an array")
  | short {parts : List Frame} (few : parts.length < 2) :
      Stray (.array parts) (.protocol "CLUSTER SLOTS node entry needs a host and a port")
  | unnamed {host port : Frame} {more : List Frame} (unread : host.asText = none) :
      Stray (.array (host :: port :: more)) (.protocol "CLUSTER SLOTS node host must be a string")
  | unnumbered {host port : Frame} {more : List Frame} {text : String}
      (read : host.asText = some text)
      (beyond : ∀ value, port = .integer value → value.toInt < 0 ∨ 65536 ≤ value.toInt) :
      Stray (.array (host :: port :: more)) (.protocol "CLUSTER SLOTS node port is invalid")

/-- The fields that locate an endpoint. -/
def isNode : Frame → Bool
  | .array (host :: .integer port :: _) =>
    host.asText.isSome && 0 ≤ port.toInt && port.toInt < 65536
  | _ => false

/-- The entries that describe a range: three fields stand in front, of which the first two bound
some slots that there are. -/
def describes : Frame → Bool
  | .array (.integer first :: .integer last :: _ :: _) =>
    0 ≤ first.toInt && first.toInt ≤ last.toInt && last.toInt < slotCount
  | _ => false

/-- An entry reports a range: its bounds, its master, and as its replicas the further fields that
locate an endpoint. -/
inductive Reports (queried : Endpoint) : Frame → SlotRange → Prop where
  | entry {first last : Int64} {master : Frame} {replicas : List Frame} {range : SlotRange}
      (lower : first.toInt = range.first) (upper : last.toInt = range.last)
      (served : Locates queried master range.master)
      (copied : List.Forall₂ (Locates queried) (replicas.filter isNode) range.replicas) :
      Reports queried (.array (.integer first :: .integer last :: master :: replicas)) range

/-- An entry spoils a layout if its master is nowhere. -/
inductive Spoils : Frame → ClientError → Prop where
  | entry {first last master : Frame} {replicas : List Frame} {error : ClientError}
      (astray : Stray master error) : Spoils (.array (first :: last :: master :: replicas)) error

variable {queried : Endpoint}

/-- A frame is the number of a slot if it is an integer that is one. -/
theorem slot?_eq_some_iff {frame : Frame} {slot : Nat} :
    slot? frame = some slot ↔
      slot < slotCount ∧ ∃ value, frame = .integer value ∧ value.toInt = slot := by
  cases frame with
  | integer value =>
    simp only [slot?, Option.ite_none_right_eq_some, Option.some.injEq, Frame.integer.injEq,
      exists_eq_left']
    omega
  -- No other frame is the number of a slot.
  | _ => simp [slot?]

/-- A frame is a port if it is an integer that is one. -/
theorem port?_eq_some_iff {frame : Frame} {port : UInt16} :
    port? frame = some port ↔ ∃ value, frame = .integer value ∧ value.toInt = port.toNat := by
  cases frame with
  | integer value =>
    simp only [port?, Option.ite_none_right_eq_some, Option.some.injEq, Frame.integer.injEq,
      exists_eq_left']
    constructor
    · rintro ⟨⟨least, most⟩, rfl⟩
      rw [UInt16.toNat_ofNat']
      omega
    · intro same
      -- A number of sixteen bits is never too large for a port.
      have small := port.toNat_lt
      refine ⟨by omega, ?_⟩
      rw [same, Int.toNat_natCast, UInt16.ofNat_toNat]
  | _ => simp [port?]

/-- A frame is no port if it is no integer or one that is too small or too large. -/
theorem port?_eq_none_iff {frame : Frame} :
    port? frame = none ↔
      ∀ value, frame = .integer value → value.toInt < 0 ∨ 65536 ≤ value.toInt := by
  cases frame with
  | integer value =>
    simp only [port?, ite_eq_right_iff, reduceCtorEq, imp_false, Frame.integer.injEq, forall_eq']
    -- Sixteen bits hold the numbers below 65536.
    omega
  | _ => simp [port?]

/-- A field is read as the endpoint that it locates. -/
theorem node_eq_ok_iff {field : Frame} {endpoint : Endpoint} :
    node queried field = .ok endpoint ↔ Locates queried field endpoint := by
  constructor
  · intro named
    -- A field that is read has a host and a port in front.
    obtain ⟨host, port, more, text, rfl, read, numbered, spelled⟩ := eq_of_node named
    obtain ⟨value, rfl, same⟩ := port?_eq_some_iff.1 numbered
    exact .node read same spelled
  · rintro @⟨host, value, more, text, endpoint, read, numbered, spelled⟩
    have port : port? (.integer value) = some endpoint.port :=
      port?_eq_some_iff.2 ⟨value, rfl, numbered⟩
    simp only [node, read, port, ← spelled]

/-- A field that locates no endpoint is refused for the reason that it gives. -/
theorem node_eq_error_iff {field : Frame} {error : ClientError} :
    node queried field = .error error ↔ Stray field error := by
  constructor
  · intro refused
    -- Each way for the reading to fail is one of the reasons.
    unfold node at refused
    split at refused
    · split at refused
      · rename_i unread
        cases refused
        exact .unnamed unread
      · rename_i text read
        split at refused
        · rename_i unnumbered
          cases refused
          exact .unnumbered read (port?_eq_none_iff.1 unnumbered)
        · cases refused
    · rename_i parts few
      cases refused
      -- Two parts would be a host and a port.
      match parts, few with
      | [], _ => exact .short (by decide)
      | [part], _ => exact .short (by simp)
      | host :: port :: more, few => exact (few host port more rfl).elim
    -- Everything else is a single frame.
    · rename_i single
      cases refused
      exact .scalar single
  · intro astray
    cases astray with
    -- A frame that is no array has no parts.
    | scalar single =>
      cases field with
      | array parts => exact absurd rfl (single parts)
      | _ => rfl
    | @short parts few =>
      match parts, few with
      | [], _ | [_], _ => rfl
    | unnamed unread => simp only [node, unread]
    | unnumbered read beyond => simp only [node, read, port?_eq_none_iff.2 beyond]

/-- A field that is a node is one that locates an endpoint. -/
theorem isNode_iff (queried : Endpoint) {field : Frame} :
    isNode field = true ↔ ∃ endpoint, Locates queried field endpoint := by
  constructor
  · intro shaped
    unfold isNode at shaped
    split at shaped
    · rename_i host port more
      simp only [Bool.and_eq_true, decide_eq_true_eq, Option.isSome_iff_exists] at shaped
      obtain ⟨⟨⟨text, read⟩, least⟩, most⟩ := shaped
      -- Within these bounds a port loses nothing in its sixteen bits.
      have numbered : port.toInt = (UInt16.ofNat port.toInt.toNat).toNat := by
        rw [UInt16.toNat_ofNat']
        omega
      exact ⟨⟨_, _⟩, .node read numbered rfl⟩
    -- No other field is shaped like a node.
    · cases shaped
  · rintro ⟨endpoint, @⟨host, port, more, text, _, read, numbered, -⟩⟩
    have small := endpoint.port.toNat_lt
    simp only [isNode, read, Option.isSome_some, Bool.true_and, Bool.and_eq_true, decide_eq_true_eq]
    omega

/-- The fields that can be read as nodes are read as the endpoints that they locate. -/
theorem filterMap_node_eq_iff {fields : List Frame} {endpoints : List Endpoint} :
    fields.filterMap (fun field => (node queried field).toOption) = endpoints ↔
      List.Forall₂ (Locates queried) (fields.filter isNode) endpoints := by
  -- Both sides go through the fields in order and take those that are kept.
  induction fields generalizing endpoints with
  | nil => exact eq_comm.trans List.forall₂_nil_left_iff.symm
  | cons field rest ih =>
    cases named : node queried field with
    | error error =>
      -- A field that is refused locates nothing, so it is left out on both sides.
      have left_out : ¬ isNode field = true := by
        rw [isNode_iff queried]
        rintro ⟨endpoint, located⟩
        rw [node_eq_ok_iff.2 located] at named
        cases named
      rw [List.filter_cons_of_neg left_out, List.filterMap_cons, named]
      exact ih
    | ok endpoint =>
      have located := node_eq_ok_iff.1 named
      -- A field that is read locates its endpoint, so it is kept on both sides.
      have kept : isNode field = true := (isNode_iff queried).2 ⟨endpoint, located⟩
      rw [List.filter_cons_of_pos kept, List.filterMap_cons, named, List.forall₂_cons_left_iff]
      constructor
      · rintro rfl
        exact ⟨endpoint, _, located, ih.1 rfl, rfl⟩
      · rintro ⟨other, others, locatedToo, read, rfl⟩
        -- A field locates one endpoint at most.
        have same := (node_eq_ok_iff.2 locatedToo).symm.trans named
        cases same
        rw [← ih.2 read]
        rfl

/-- An entry is read as a range exactly if it describes one. -/
theorem range?_eq_some_iff {entry master : Frame} {first last : Nat} {replicas : List Frame} :
    range? entry = some (first, last, master, replicas) ↔
      first ≤ last ∧ last < slotCount ∧ ∃ lower upper,
        entry = .array (.integer lower :: .integer upper :: master :: replicas) ∧
          lower.toInt = first ∧ upper.toInt = last := by
  constructor
  · intro bounds
    unfold range? at bounds
    split at bounds
    · split at bounds
      · rename_i lower upper
        split at bounds
        · rename_i ordered
          simp only [Option.some.injEq, Prod.mk.injEq] at bounds
          obtain ⟨rfl, rfl, rfl, rfl⟩ := bounds
          -- The bounds are slots that there are, and in order.
          obtain ⟨-, low, rfl, begins⟩ := slot?_eq_some_iff.1 lower
          obtain ⟨small, high, rfl, ends⟩ := slot?_eq_some_iff.1 upper
          exact ⟨ordered, small, low, high, rfl, begins, ends⟩
        · cases bounds
      · cases bounds
    · cases bounds
  · rintro ⟨ordered, small, low, high, rfl, begins, ends⟩
    -- What is below the last slot of a range is below the slot count with it.
    have lower := slot?_eq_some_iff.2 ⟨by omega, low, rfl, begins⟩
    have upper := slot?_eq_some_iff.2 ⟨small, high, rfl, ends⟩
    simp only [range?, lower, upper, if_pos ordered]

/-- The entries that describe a range are those in which one is read. -/
theorem describes_iff {entry : Frame} :
    describes entry = true ↔ ∃ first last master replicas,
      range? entry = some (first, last, master, replicas) := by
  constructor
  · intro shaped
    unfold describes at shaped
    split at shaped
    · rename_i low high master replicas
      simp only [Bool.and_eq_true, decide_eq_true_eq] at shaped
      obtain ⟨⟨least, ordered⟩, most⟩ := shaped
      -- The numbers are no less than zero, so nothing is lost of them.
      exact ⟨low.toInt.toNat, high.toInt.toNat, master, replicas,
        range?_eq_some_iff.2 ⟨by omega, by omega, low, high, rfl, by omega, by omega⟩⟩
    · cases shaped
  · rintro ⟨first, last, master, replicas, bounds⟩
    -- The entry in which a range is read has its bounds in front.
    obtain ⟨ordered, small, low, high, rfl, begins, ends⟩ := range?_eq_some_iff.1 bounds
    simp only [describes, Bool.and_eq_true, decide_eq_true_eq]
    omega

/-- What an entry reports depends on its master, once its bounds are read. -/
theorem reports_iff {entry master : Frame} {first last : Nat} {replicas : List Frame}
    (bounds : range? entry = some (first, last, master, replicas)) {range : SlotRange} :
    Reports queried entry range ↔ ∃ endpoint, node queried master = .ok endpoint ∧
      range = ⟨first, last, endpoint,
        replicas.filterMap fun replica => (node queried replica).toOption⟩ := by
  obtain ⟨-, -, low, high, rfl, begins, ends⟩ := range?_eq_some_iff.1 bounds
  constructor
  · rintro ⟨lower, upper, served, copied⟩
    obtain ⟨lowest, highest, endpoint, known⟩ := range
    -- The bounds were read from the same numbers.
    have sameFirst : lowest = first := Int.ofNat_inj.1 (lower.symm.trans begins)
    have sameLast : highest = last := Int.ofNat_inj.1 (upper.symm.trans ends)
    refine ⟨endpoint, node_eq_ok_iff.2 served, ?_⟩
    rw [filterMap_node_eq_iff.2 copied, sameFirst, sameLast]
  · rintro ⟨endpoint, served, rfl⟩
    exact .entry begins ends (node_eq_ok_iff.1 served) (filterMap_node_eq_iff.1 rfl)

/-- An entry spoils a layout if its master is refused, once its bounds are read. -/
theorem spoils_iff {entry master : Frame} {first last : Nat} {replicas : List Frame}
    (bounds : range? entry = some (first, last, master, replicas)) {error : ClientError} :
    Spoils entry error ↔ node queried master = .error error := by
  obtain ⟨-, -, low, high, rfl, -, -⟩ := range?_eq_some_iff.1 bounds
  -- The master stands behind the bounds.
  rw [node_eq_error_iff]
  exact ⟨fun ⟨astray⟩ => astray, .entry⟩

/-- An entry whose master is nowhere reports no range. -/
theorem Reports.not_spoils {entry : Frame} {range : SlotRange} {error : ClientError}
    (reports : Reports queried entry range) : ¬ Spoils entry error := by
  rintro ⟨astray⟩
  obtain ⟨-, -, served, -⟩ := reports
  -- A master that was located is not refused.
  have found := node_eq_ok_iff.2 served
  rw [node_eq_error_iff.2 astray] at found
  cases found

/-- Among the entries that describe a range there are only those that report one and those that
spoil the layout. -/
theorem reports_or_spoils (queried : Endpoint) {entry : Frame} (kept : describes entry = true) :
    (∃ range, Reports queried entry range) ∨ ∃ error, Spoils entry error := by
  obtain ⟨first, last, master, replicas, bounds⟩ := describes_iff.1 kept
  -- The master of the range decides.
  cases named : node queried master with
  | error error => exact .inr ⟨error, (spoils_iff bounds).2 named⟩
  | ok endpoint => exact .inl ⟨_, (reports_iff bounds).2 ⟨endpoint, named, rfl⟩⟩

/-- An entry that describes no range is skipped. -/
theorem ofEntries_skips {entry : Frame} (left_out : ¬ describes entry = true) (rest : List Frame) :
    ofEntries queried (entry :: rest) = ofEntries queried rest := by
  have unread : range? entry = none := by
    -- A range that was read would have been described.
    rw [Option.eq_none_iff_forall_ne_some]
    exact fun found bounds => left_out (describes_iff.2 ⟨_, _, _, _, bounds⟩)
  rw [ofEntries, unread]

/-- An entry that reports a range puts it in front of the others. -/
theorem ofEntries_reported {entry : Frame} (kept : describes entry = true) {range : SlotRange}
    (reports : Reports queried entry range) (rest : List Frame) :
    ofEntries queried (entry :: rest) = (ofEntries queried rest).map (range :: ·) := by
  obtain ⟨first, last, master, replicas, bounds⟩ := describes_iff.1 kept
  obtain ⟨endpoint, named, rfl⟩ := (reports_iff bounds).1 reports
  simp only [ofEntries, bounds, named]
  -- What the others report comes behind, unless they are refused.
  cases ofEntries queried rest <;> rfl

/-- An entry that spoils the layout ends the reading. -/
theorem ofEntries_spoiled {entry : Frame} (kept : describes entry = true) {error : ClientError}
    (spoils : Spoils entry error) (rest : List Frame) :
    ofEntries queried (entry :: rest) = .error error := by
  obtain ⟨first, last, master, replicas, bounds⟩ := describes_iff.1 kept
  have named : node queried master = .error error := (spoils_iff bounds).1 spoils
  simp only [ofEntries, bounds, named]

/-- An entry reports one range at most. -/
theorem Reports.unique {entry : Frame} {range other : SlotRange} (kept : describes entry = true)
    (reports : Reports queried entry range) (reportsToo : Reports queried entry other) :
    range = other := by
  -- Alone, an entry is read as the range that it reports.
  have read : ofEntries queried [entry] = .ok [range] := ofEntries_reported kept reports []
  have readToo : ofEntries queried [entry] = .ok [other] := ofEntries_reported kept reportsToo []
  simpa using read.symm.trans readToo

/-- Entries are read as the ranges that those of them report which describe one. -/
theorem ofEntries_eq_ok_iff {entries : List Frame} {ranges : List SlotRange} :
    ofEntries queried entries = .ok ranges ↔
      List.Forall₂ (Reports queried) (entries.filter describes) ranges := by
  -- An entry is skipped, reports the first of the ranges, or spoils all of them.
  induction entries generalizing ranges with
  | nil =>
    rw [ofEntries, Except.ok.injEq, eq_comm]
    exact List.forall₂_nil_left_iff.symm
  | cons entry rest ih =>
    by_cases kept : describes entry = true
    · rw [List.filter_cons_of_pos kept, List.forall₂_cons_left_iff]
      simp only [← ih]
      rcases reports_or_spoils queried kept with ⟨range, reports⟩ | ⟨error, spoils⟩
      -- The range of this entry comes first, if the others are not refused.
      · rw [ofEntries_reported kept reports]
        cases ofEntries queried rest with
        | error error => simp [Except.map]
        | ok others =>
          simp only [Except.map, Except.ok.injEq]
          constructor
          · rintro rfl
            exact ⟨range, others, reports, rfl, rfl⟩
          · rintro ⟨other, _, reportsToo, rfl, rfl⟩
            rw [reports.unique kept reportsToo]
      · -- Without a master there is neither a layout nor a range.
        rw [ofEntries_spoiled kept spoils]
        simp only [reduceCtorEq, false_iff]
        rintro ⟨range, _, reports, -⟩
        exact reports.not_spoils spoils
    -- Who describes no range is left out on both sides.
    · rw [List.filter_cons_of_neg kept, ofEntries_skips kept, ih]

/-- Entries are refused because of the first that describes a range and has no master. -/
theorem ofEntries_eq_error_iff {entries : List Frame} {error : ClientError} :
    ofEntries queried entries = .error error ↔ ∃ before entry after,
      entries.filter describes = before ++ entry :: after ∧
        (∀ other ∈ before, ∃ range, Reports queried other range) ∧ Spoils entry error := by
  -- As long as entries are skipped or report ranges, the error comes from those behind them.
  induction entries with
  | nil => simp [ofEntries]
  | cons entry rest ih =>
    by_cases kept : describes entry = true
    · rw [List.filter_cons_of_pos kept]
      rcases reports_or_spoils queried kept with ⟨range, reports⟩ | ⟨found, spoils⟩
      · -- The entry that counts is behind this one.
        have passed : ofEntries queried (entry :: rest) = .error error ↔
            ofEntries queried rest = .error error := by
          rw [ofEntries_reported kept reports]
          cases ofEntries queried rest <;> simp [Except.map]
        rw [passed, ih]
        constructor
        · rintro ⟨before, other, after, parts, earlier, spoils⟩
          refine ⟨entry :: before, other, after, by rw [parts, List.cons_append], ?_, spoils⟩
          exact List.forall_mem_cons.2 ⟨⟨range, reports⟩, earlier⟩
        · rintro ⟨before, other, after, parts, earlier, spoils⟩
          -- The entry that counts is this one or one behind it.
          rcases List.cons_eq_append_iff.1 parts with ⟨rfl, same⟩ | ⟨middle, rfl, later⟩
          · cases same
            exact absurd spoils reports.not_spoils
          · exact ⟨middle, other, after, later, (List.forall_mem_cons.1 earlier).2, spoils⟩
      · -- This entry is the one that counts, for no earlier one may spoil the layout.
        rw [ofEntries_spoiled kept spoils]
        constructor
        · rintro ⟨⟩
          exact ⟨[], entry, _, rfl, by simp, spoils⟩
        · rintro ⟨before, other, after, parts, earlier, spoilsToo⟩
          -- No entry in front of this one can count.
          rcases List.cons_eq_append_iff.1 parts with ⟨rfl, same⟩ | ⟨middle, rfl, -⟩
          · cases same
            have read : ofEntries queried (entry :: rest) = .error error :=
              ofEntries_spoiled kept spoilsToo rest
            rw [← read, ofEntries_spoiled kept spoils]
          · obtain ⟨range, reports⟩ := earlier entry List.mem_cons_self
            exact absurd spoils reports.not_spoils
    · rw [List.filter_cons_of_neg kept, ofEntries_skips kept, ih]

end Layout

end RedisCluster
