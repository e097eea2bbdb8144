import RedisCluster.Proofs.Command.Rows
import RedisCluster.Proofs.Network.Exchange

/-! Commands on the wire: whatever bytes their arguments have, they arrive as what was sent. -/

namespace RedisCluster

namespace Frame

/-- Bulk strings in a row are told apart by their lengths: if as many of them stand before what
follows, they are the same. -/
theorem encodeAll_bulks_inj {args others : List Bytes} {more rest : Bytes}
    (counted : args.length = others.length)
    (same : encodeAll (args.map fun bytes => .bulk (some bytes)) ++ more =
      encodeAll (others.map fun bytes => .bulk (some bytes)) ++ rest) : args = others := by
  induction args generalizing others with
  | nil => exact (List.length_eq_zero_iff.1 counted.symm).symm
  | cons bytes args ih =>
    cases others with
    -- None are as many as none.
    | nil => cases counted
    | cons other others =>
      simp only [List.map_cons, encodeAll, encode, List.append_assoc] at same
      obtain ⟨lengths, payloads⟩ :=
        line_append_inj (numeral_unbroken _) (numeral_unbroken _) same
      -- The lengths are the same, so the payloads end at the same place.
      obtain ⟨rfl, behind⟩ := List.append_inj payloads (Int.ofNat_inj.1 (numeral_inj lengths))
      rw [ih (Nat.succ.inj counted) (List.append_cancel_left behind)]

end Frame

namespace Command

/-- No command is the beginning of another one on the wire. -/
theorem args_of_prefix {command other : Command}
    (front : command.toFrame.encode <+: other.toFrame.encode) : command.args = other.args := by
  -- The counts stand in front, so both have as many arguments before these are compared.
  obtain ⟨rest, whole⟩ := front
  have same : (toFrame command).encode ++ rest = (toFrame other).encode ++ [] := by
    rw [whole, List.append_nil]
  -- What is sent begins with the number of arguments.
  simp only [toFrame, Frame.encode, List.append_assoc, List.length_map] at same
  obtain ⟨counts, items⟩ :=
    Frame.line_append_inj (Frame.numeral_unbroken _) (Frame.numeral_unbroken _) same
  exact Frame.encodeAll_bulks_inj (Int.ofNat_inj.1 (Frame.numeral_inj counts)) items

/-- A command that fits in the decoder is decoded as what was sent, in whatever chunks it comes. -/
theorem feed_toFrame (command : Command) {limit : Nat} {chunks : List Bytes}
    (allowed : command.toFrame.encode.length ≤ limit)
    (addressable : command.toFrame.encode.length < 2 ^ 63)
    (cut : chunks.flatten = command.toFrame.encode) :
    Decoder.feed ⟨limit, []⟩ chunks = ([command.toFrame], none, ⟨limit, []⟩) := by
  -- The frame of a command has no broken line.
  have read := Frame.parse_encode command.toFrame_unbroken allowed addressable []
  rw [List.append_nil] at read
  -- The bytes of one frame give this frame however they are cut, and within the limit no error.
  rw [Decoder.feed_of_parse read cut,
    Decoder.overrun?_of_fits (by rw [cut, Nat.zero_add]; exact allowed), Option.map_none]

/-- A command is sent as it was built. Its row has the name and then all operands in order, and the
keys are found at their places, so no place lies outside; what is sent are the arguments as bulk
strings, whether the row is used up or not. Commands over any number of keys are built of these, and
every command is built of its operands. On the wire a command is decoded as what was sent and
nothing more, whatever bytes its arguments have and in whatever chunks they come, and no command is
the beginning of one with other arguments. -/
theorem sent_as_built :
    (∀ name operands, let row := Row.built name operands
      row.args = name :: operands.map Operand.bytes ∧
        row.keys? = some (operands.filterMap Operand.key?) ∧
        row.toFrame = .array (row.args.map fun bytes => .bulk (some bytes)) ∧
        row.intoFrame = row.toFrame ∧
        let command := built name operands
        command.args = row.args ∧ some command.keys = row.keys? ∧ command.toFrame = row.toFrame) ∧
    (∀ word helper, (word, helper) ∈ [("DEL", del), ("EXISTS", existing), ("MGET", mget)] →
      ∀ keys, helper keys = built (Utf8.encode word) (keys.map .key) ∧
        (helper keys).args = Utf8.encode word :: keys ∧ (helper keys).keys = keys) ∧
    (∀ pairs, mset pairs = built (Utf8.encode "MSET")
        (pairs.flatMap fun (key, value) => [.key key, .plain value]) ∧
      (mset pairs).args = Utf8.encode "MSET" :: pairs.flatMap (fun (key, value) => [key, value]) ∧
      (mset pairs).keys = pairs.map Prod.fst) ∧
    (∀ command : Command, command = built command.name command.operands) ∧
    (∀ (command : Command) limit chunks, command.toFrame.encode.length ≤ limit →
      command.toFrame.encode.length < 2 ^ 63 → chunks.flatten = command.toFrame.encode →
      Decoder.feed ⟨limit, []⟩ chunks = ([command.toFrame], none, ⟨limit, []⟩)) ∧
    ∀ command other : Command, command.toFrame.encode <+: other.toFrame.encode →
      command.args = other.args := by
  refine ⟨fun name operands => ?_, fun word helper listed keys => ?_,
    fun pairs => ⟨mset_eq pairs, operands_mset pairs⟩, fun command => (built_eq _ _).symm,
    fun command _ _ => feed_toFrame command, fun _ _ => args_of_prefix⟩
  · refine ⟨Row.args_built name operands, Row.keys?_built name operands, rfl,
      Row.intoFrame_eq_toFrame _, ?_, ?_, toFrame_built name operands⟩
    -- What was built has the operands that it was built of.
    · rw [built_eq, Row.args_built, args]
    · rw [built_eq, Row.keys?_built, Command.keys]
  · -- These helpers differ in nothing but the word.
    have sameHelper : helper = overKeys word := by
      simp only [List.mem_cons, Prod.mk.injEq, List.not_mem_nil, or_false] at listed
      rcases listed with ⟨rfl, rfl⟩ | ⟨rfl, rfl⟩ | ⟨rfl, rfl⟩ <;> rfl
    rw [sameHelper]
    exact ⟨overKeys_eq word keys, operands_overKeys word keys⟩

/-- Line ends, markers, no bytes and bytes that are no text go through as they are, cut in the
middle, and one argument more does not make the same beginning. -/
theorem sent_as_built_binary :
    let command := mset [([13, 10, 36, 51], [255]), ([], [42])]
    let chunks : List Bytes := [[42, 53, 13, 10, 36, 52, 13],
      [10, 77, 83, 69, 84, 13, 10, 36, 52, 13, 10, 13],
      [10, 36, 51, 13, 10, 36, 49, 13, 10, 255, 13, 10, 36, 48, 13, 10, 13, 10, 36, 49, 13, 10, 42],
      [13, 10]]
    Decoder.feed ⟨64, []⟩ chunks = ([command.toFrame], none, ⟨64, []⟩) ∧
      (mget [[13, 10], []]).keys = [[13, 10], []] ∧
      ¬ command.toFrame.encode <+: (command.arg [43]).toFrame.encode := by
  intro command chunks
  obtain ⟨-, helpers, -, -, received, apart⟩ := sent_as_built
  have listed : ("MGET", mget) ∈ [("DEL", del), ("EXISTS", existing), ("MGET", mget)] := by simp
  refine ⟨received command 64 chunks (by decide) (by decide) (by decide),
    (helpers "MGET" mget listed [[13, 10], []]).2.2, fun front => ?_⟩
  -- One argument more is another list of arguments.
  exact absurd (apart _ _ front) (by decide)

end Command

end RedisCluster
