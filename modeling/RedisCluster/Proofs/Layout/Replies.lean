import RedisCluster.Proofs.Layout.Entries
import RedisCluster.Proofs.Text.Utf8
import RedisCluster.Proofs.Topology.Bounds

/-! Which layout a reply reports, and why it reports none. -/

namespace RedisCluster

namespace Layout

/-- Why a reply reports no layout: it is an error or no array, or of the entries that describe a
range one spoils the layout, of which the first counts. -/
inductive Fails (queried : Endpoint) : Frame → ClientError → Prop where
  | refused {message : String} : Fails queried (.error message) (.server message)
  | scalar {reply : Frame} (single : ∀ entries, reply ≠ .array entries)
      (answered : ∀ message, reply ≠ .error message) :
      Fails queried reply
        (.protocol ("CLUSTER SLOTS reply must be an array, got " ++ reply.outline))
  | spoiled {entries before after : List Frame} {entry : Frame} {error : ClientError}
      (kept : entries.filter describes = before ++ entry :: after)
      (earlier : ∀ other ∈ before, ∃ range, Reports queried other range)
      (spoils : Spoils entry error) : Fails queried (.array entries) error

variable {queried : Endpoint}

/-- The bounds that entries report are in order, and there are all slots between them. -/
theorem bounded_of_reports {entries : List Frame} {ranges : List SlotRange}
    (kept : ∀ entry ∈ entries, describes entry = true)
    (reported : List.Forall₂ (Reports queried) entries ranges) :
    ∀ range ∈ ranges, range.first ≤ range.last ∧ range.last < slotCount := by
  -- The bounds were checked when the entry was found to describe a range.
  induction reported with
  | nil => simp
  | @cons entry range entries ranges reports _ ih =>
    obtain ⟨described, others⟩ := List.forall_mem_cons.1 kept
    refine List.forall_mem_cons.2 ⟨?_, ih others⟩
    obtain ⟨first, last, master, replicas, bounds⟩ := describes_iff.1 described
    obtain ⟨endpoint, -, rfl⟩ := (reports_iff bounds).1 reports
    obtain ⟨ordered, small, -⟩ := range?_eq_some_iff.1 bounds
    exact ⟨ordered, small⟩

/-- A reply that is an array reports what its entries report, and no other reply reports a layout.
-/
theorem ofReply_eq_ok_iff {reply : Frame} {ranges : List SlotRange} :
    ofReply queried reply = .ok ranges ↔ ∃ entries, reply = .array entries ∧
      List.Forall₂ (Reports queried) (entries.filter describes) ranges := by
  cases reply with
  -- Every other reply is refused.
  | array entries => simp only [ofReply, ofEntries_eq_ok_iff, Frame.array.injEq, exists_eq_left']
  | _ => simp [ofReply]

/-- A reply is refused for the reason that it gives. -/
theorem ofReply_eq_error_iff {reply : Frame} {error : ClientError} :
    ofReply queried reply = .error error ↔ Fails queried reply error := by
  constructor
  · intro refused
    cases reply with
    | array entries =>
      obtain ⟨before, entry, after, kept, earlier, spoils⟩ := ofEntries_eq_error_iff.1 refused
      exact .spoiled kept earlier spoils
    | error message =>
      -- An error is told as the node has told it.
      cases refused
      exact .refused
    -- Everything else is no array.
    | _ =>
      cases refused
      exact .scalar (by simp) (by simp)
  · intro fails
    cases fails with
    | refused => rfl
    | scalar single answered =>
      cases reply with
      | array entries => exact absurd rfl (single entries)
      | error message => exact absurd rfl (answered message)
      | _ => rfl
    | spoiled kept earlier spoils =>
      -- The entries decide, and the first that is spoiled counts.
      exact ofEntries_eq_error_iff.2 ⟨_, _, _, kept, earlier, spoils⟩

/-- A reply is refused if and only if it is no array, or an entry that describes a range has no
master. -/
theorem refused_iff {reply : Frame} :
    (∃ error, ofReply queried reply = .error error) ↔ (∀ entries, reply ≠ .array entries) ∨
      ∃ entries, reply = .array entries ∧
        ∃ entry ∈ entries.filter describes, ∃ error, Spoils entry error := by
  constructor
  · rintro ⟨error, refused⟩
    cases ofReply_eq_error_iff.1 refused with
    | refused => exact .inl (by simp)
    | scalar single => exact .inl single
    -- The entry that spoils the layout is one of those that were kept.
    | spoiled kept _ spoils => exact .inr ⟨_, rfl, _, by simp [kept], error, spoils⟩
  · intro flawed
    cases read : ofReply queried reply with
    -- A reply that is refused is refused for some reason.
    | error error => exact ⟨error, rfl⟩
    | ok ranges =>
      obtain ⟨entries, rfl, reported⟩ := ofReply_eq_ok_iff.1 read
      rcases flawed with single | ⟨_, ⟨⟩, entry, kept, error, spoils⟩
      · exact absurd rfl (single entries)
      · -- All entries that describe a range have reported one.
        have both : List.Forall₂
            (fun entry range => ¬ Spoils entry error ∧ Reports queried entry range)
            (entries.filter describes) ranges :=
          reported.imp fun entry range reports => ⟨reports.not_spoils, reports⟩
        have unspoiled := ((List.forall₂_and_left _ _).1 both).1
        exact absurd spoils (unspoiled entry kept)

/-- The entry that is made of a range and its master reports them. -/
theorem reports_made (queried : Endpoint) {first last : Nat} {node : Endpoint}
    (ordered : first ≤ last) (small : last < slotCount)
    (hosted : node.host ≠ "" ∧ node.host ≠ "?") :
    let entry := Frame.array [.integer (Int64.ofNat first), .integer (Int64.ofNat last),
      .array [.ofText node.host, .integer (Int64.ofNat node.port.toNat)]]
    describes entry = true ∧ Reports queried entry ⟨first, last, node, []⟩ := by
  -- All these numbers are far below the largest that a frame has room for.
  have port_small := node.port.toNat_lt
  rw [slotCount] at small
  have lower : (Int64.ofNat first).toInt = first := Int64.toInt_ofNat_of_lt (by omega)
  have upper : (Int64.ofNat last).toInt = last := Int64.toInt_ofNat_of_lt (by omega)
  have numbered : (Int64.ofNat node.port.toNat).toInt = node.port.toNat :=
    Int64.toInt_ofNat_of_lt (by omega)
  -- The host is a text, so its bytes are read as it.
  have named : (Frame.ofText node.host).asText = some node.host :=
    congrArg some (Utf8.lossy_encode node.host)
  refine ⟨?_, .entry lower upper (.node named numbered ?_) .nil⟩
  -- The bounds are in order, and the last slot is one that there is.
  · simp only [describes, lower, upper, slotCount, Bool.and_eq_true, decide_eq_true_eq]
    omega
  · exact (if_neg (not_or.2 hosted)).symm

/-- A reply that was made of ranges is read as these ranges. -/
theorem ofReply_toReply {ranges : List (Nat × Nat × Endpoint)}
    (valid : ∀ range ∈ ranges, range.1 ≤ range.2.1 ∧ range.2.1 < slotCount)
    (hosted : ∀ range ∈ ranges, range.2.2.host ≠ "" ∧ range.2.2.host ≠ "?") :
    ofReply queried (toReply ranges) =
      .ok (ranges.map fun (first, last, node) => ⟨first, last, node, []⟩) := by
  have made (range : Nat × Nat × Endpoint) (listed : range ∈ ranges) :=
    reports_made queried (valid range listed).1 (valid range listed).2 (hosted range listed)
  -- All entries describe a range, so none is left out, and each reports its own.
  refine ofReply_eq_ok_iff.2 ⟨_, rfl, ?_⟩
  rw [List.filter_eq_self.2, List.forall₂_map_left_iff, List.forall₂_map_right_iff,
    List.forall₂_same]
  · exact fun range listed => (made range listed).2
  -- An entry is made of one of the ranges.
  · intro entry member
    obtain ⟨range, listed, rfl⟩ := List.mem_map.1 member
    exact (made range listed).1

/-- A reply reports a layout exactly if it is an array whose entries that describe a range all have
a master, and then it reports one range for each of them; else it is refused for the first reason
that there is. A layout that is reported has only slots that there are, so no rebuild stops at one,
whatever addresses its masters are translated to. What is made of ranges reports them. -/
theorem replies_report_layouts (queried : Endpoint) :
    (∀ reply ranges, ofReply queried reply = .ok ranges ↔ ∃ entries, reply = .array entries ∧
      List.Forall₂ (Reports queried) (entries.filter describes) ranges) ∧
    (∀ reply error, ofReply queried reply = .error error ↔ Fails queried reply error) ∧
    (∀ reply, (∃ error, ofReply queried reply = .error error) ↔
      (∀ entries, reply ≠ .array entries) ∨ ∃ entries, reply = .array entries ∧
        ∃ entry ∈ entries.filter describes, ∃ error, Spoils entry error) ∧
    (∀ reply ranges, ofReply queried reply = .ok ranges →
      (∀ range ∈ ranges, range.first ≤ range.last ∧ range.last < slotCount) ∧
      ∀ (topology : Topology) (translate : Endpoint → Endpoint),
        let reached := ranges.map fun range => { range with master := translate range.master }
        topology.rebuild? reached = some (topology.rebuild reached)) ∧
    ∀ ranges : List (Nat × Nat × Endpoint),
      (∀ range ∈ ranges, range.1 ≤ range.2.1 ∧ range.2.1 < slotCount) →
      (∀ range ∈ ranges, range.2.2.host ≠ "" ∧ range.2.2.host ≠ "?") →
      ofReply queried (toReply ranges) =
        .ok (ranges.map fun (first, last, node) => ⟨first, last, node, []⟩) := by
  refine ⟨fun _ _ => ofReply_eq_ok_iff, fun _ _ => ofReply_eq_error_iff, fun _ => refused_iff,
    fun reply ranges read => ?_, fun _ => ofReply_toReply⟩
  -- The ranges are those that the entries report.
  obtain ⟨entries, -, reported⟩ := ofReply_eq_ok_iff.1 read
  have bounded := bounded_of_reports (fun _ kept => (List.mem_filter.1 kept).2) reported
  refine ⟨bounded, fun topology translate => ?_⟩
  refine Topology.rebuild?_eq_some_iff.2 ⟨.inr fun range listed => ?_, rfl⟩
  -- Translating a master leaves the bounds alone.
  obtain ⟨original, member, rfl⟩ := List.mem_map.1 listed
  exact Topology.lt_of_mem_slots (bounded original member).2

/-- Ranges that overlap, and a master with colons in its host, come back from the reply that was
made of them, and no rebuild stops at the last slot. -/
theorem replies_report_layouts_overlap :
    let ranges := [(0, 16383, ⟨"10.0.0.1", 6379⟩), (5461, 5461, ⟨"fe80::A", 7000⟩)]
    let layout : List SlotRange :=
      [⟨0, 16383, ⟨"10.0.0.1", 6379⟩, []⟩, ⟨5461, 5461, ⟨"fe80::A", 7000⟩, []⟩]
    ofReply ⟨"10.0.0.9", 7000⟩ (toReply ranges) = .ok layout ∧
      ∀ topology : Topology, topology.rebuild? layout = some (topology.rebuild layout) := by
  intro ranges layout
  obtain ⟨-, -, -, sound, back⟩ := replies_report_layouts ⟨"10.0.0.9", 7000⟩
  have read : ofReply ⟨"10.0.0.9", 7000⟩ (toReply ranges) = .ok layout :=
    -- The two ranges are those that the reply was made of.
    back ranges (by decide) (by decide)
  exact ⟨read, fun topology => (sound _ _ read).2 topology id⟩

end Layout

end RedisCluster
