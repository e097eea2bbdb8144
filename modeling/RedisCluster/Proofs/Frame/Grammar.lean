import RedisCluster.Proofs.Frame.Number
import RedisCluster.Proofs.Frame.RoundTrip
import RedisCluster.Proofs.Text.WellFormed

/-! A frame is read from the front of some bytes exactly where the grammar derives it. -/

namespace RedisCluster

/-- The first line of some bytes has no line end within it. -/
theorem unbroken_of_splitLine {bytes line rest : Bytes}
    (split : splitLine? bytes = some (line, rest)) : ¬ crlf <:+: line := by
  induction bytes generalizing line with
  | nil => cases split
  | cons byte body ih =>
    rw [splitLine?] at split
    split at split
    · -- An empty line has nothing in it.
      cases split
      simp [crlf]
    · rename_i goesOn
      obtain ⟨⟨shorter, left⟩, found, whole⟩ := Option.map_eq_some_iff.mp split
      cases whole
      -- The line goes on behind this byte.
      obtain ⟨rfl, -⟩ := splitLine?_eq_some found
      rw [List.infix_cons_iff, crlf, List.cons_prefix_cons]
      rintro (⟨rfl, next⟩ | later)
      · -- A line end at the front would have ended the line before.
        obtain ⟨behind, rfl⟩ := next
        exact goesOn ⟨rfl, rfl⟩
      · exact ih found later

/-- A line is split off exactly if it is at the front and has no line end within it. -/
theorem splitLine?_eq_some_iff {bytes line rest : Bytes} :
    splitLine? bytes = some (line, rest) ↔ ¬ crlf <:+: line ∧ line ++ (crlf ++ rest) = bytes := by
  constructor
  · intro split
    obtain ⟨whole, -⟩ := splitLine?_eq_some split
    exact ⟨unbroken_of_splitLine split, by rw [← List.append_assoc, whole]⟩
  · rintro ⟨unbroken, rfl⟩
    exact splitLine?_unbroken unbroken rest

namespace Frame

/-- A line is read as a text exactly if it is what the text is written as. -/
theorem readText_eq_ok_iff {line : Bytes} {text : String} :
    readText line = .ok text ↔ line = Utf8.encode text := by
  -- A line is decoded or not.
  rw [← Utf8.decode?_eq_some_iff, readText]
  cases Utf8.decode? line <;> simp

/-- A line announces a null exactly if it is a way of writing minus one. -/
theorem readLength_eq_none_iff {limit : Nat} {line : Bytes} :
    readLength limit line = .ok none ↔ Number line (-1) := by
  rw [← readInteger_eq_ok_iff, readLength]
  cases readInteger line with
  | error fault => simp
  | ok value =>
    have minus_one : value.toInt = -1 ↔ value = -1 := by
      rw [← Int64.toInt_inj]
      rfl
    dsimp only
    split
    · rename_i null
      simp [minus_one.1 null]
    · rename_i other
      -- A number that is not minus one is a length or an error.
      have different : value ≠ -1 := fun same => other (minus_one.2 same)
      split
      · simp [different]
      split <;> simp [different]

/-- A line announces a length exactly if it is a way of writing it and the limit allows for it. -/
theorem readLength_eq_some_iff {limit length : Nat} {line : Bytes} :
    readLength limit line = .ok (some length) ↔
      ∃ value, Number line value ∧ value.toInt = length ∧ length ≤ limit := by
  simp only [← readInteger_eq_ok_iff, readLength]
  cases readInteger line with
  | error fault => simp
  | ok value =>
    simp only [Except.ok.injEq, exists_eq_left']
    -- Each number that is refused lies outside the bounds of a length.
    split
    · simp only [Except.ok.injEq, reduceCtorEq, false_iff]
      omega
    split
    · simp only [reduceCtorEq, false_iff]
      omega
    split
    · simp only [reduceCtorEq, false_iff]
      omega
    · simp only [Except.ok.injEq, Option.some.injEq]
      omega

/-- A payload is read exactly if it has its length and a line end behind it. -/
theorem readPayload_eq_done_iff {length : Nat} {bytes payload rest : Bytes} :
    readPayload length bytes = .done payload rest ↔
      payload.length = length ∧ payload ++ (crlf ++ rest) = bytes := by
  constructor
  -- Enough bytes have come, and they end as they should.
  · intro read
    unfold readPayload at read
    split at read
    · cases read
    rename_i enough
    split at read
    · rename_i ends
      injection read with same left
      subst same left
      refine ⟨by rw [List.length_take]; omega, ?_⟩
      -- The payload, the line end and the rest lie one behind the other.
      rw [← ends, ← List.drop_drop, List.take_append_drop, List.take_append_drop]
    · cases read
  · rintro ⟨rfl, rfl⟩
    rw [← List.append_assoc]
    exact readPayload_append payload rest

/-- A line begins with the byte of its marker. -/
theorem line_of_marker {marker : UInt8} {kind : Char} (same : Char.ofNat marker.toNat = kind)
    (content : Bytes) : line kind content = marker :: (content ++ crlf) := by
  rw [line, ← same, toNat_char, UInt8.ofNat_toNat]

variable {limit : Nat}

/-- Frames that are read in a row are derived in a row, if a frame that is read is derived. -/
theorem derivesAll_of_replicate {reader : Bytes → Parsed Frame}
    (derives : ∀ {bytes frame rest}, reader bytes = .done frame rest →
      ∃ front, front ++ rest = bytes ∧ Derives limit frame front)
    {count : Nat} {bytes rest : Bytes} {items : List Frame}
    (read : Parsed.replicate reader count bytes = .done items rest) :
    items.length = count ∧ ∃ body, body ++ rest = bytes ∧ DerivesAll limit items body := by
  induction count generalizing bytes items with
  | zero =>
    cases read
    exact ⟨rfl, [], rfl, .nil⟩
  | succ count ih =>
    simp only [Parsed.replicate_succ] at read
    -- The first frame is derived in front, and the others behind it.
    obtain ⟨item, middle, first, read⟩ := Parsed.andThen_eq_done read
    obtain ⟨others, last, later, same⟩ := Parsed.andThen_eq_done read
    cases same
    obtain ⟨front, rfl, derived⟩ := derives first
    obtain ⟨rfl, body, rfl, row⟩ := ih later
    exact ⟨rfl, front ++ body, by rw [List.append_assoc], .cons derived row⟩

/-- A frame that is read is derived by the bytes that it takes. -/
theorem derives_of_parseWithin {depth : Nat} {bytes rest : Bytes} {frame : Frame}
    (read : parseWithin limit depth bytes = .done frame rest) :
    ∃ front, front ++ rest = bytes ∧ Derives limit frame front := by
  -- The items of an array are read one level deeper.
  induction depth generalizing bytes rest frame with
  | zero => cases read
  | succ depth ih =>
    cases bytes with
    | nil => cases read
    | cons marker body =>
      rw [parseWithin] at read
      cases split : splitLine? body with
      | none => rw [split] at read; cases read
      | some cut =>
        obtain ⟨content, behind⟩ := cut
        -- The line stands between the marker and its end.
        obtain ⟨unbroken, rfl⟩ := splitLine?_eq_some_iff.1 split
        simp only [split] at read
        -- The marker says how the line and the bytes behind it are read.
        generalize kind : Char.ofNat marker.toNat = c at read
        have marked := line_of_marker kind content
        split at read
        · cases found : readText content <;> rw [found] at read <;> cases read
          obtain rfl := readText_eq_ok_iff.1 found
          exact ⟨_, by rw [marked]; simp, .simple unbroken⟩
        · cases found : readText content <;> rw [found] at read <;> cases read
          obtain rfl := readText_eq_ok_iff.1 found
          exact ⟨_, by rw [marked]; simp, .error unbroken⟩
        · cases found : readInteger content <;> rw [found] at read <;> cases read
          exact ⟨_, by rw [marked]; simp, .integer (readInteger_eq_ok_iff.1 found)⟩
        · rcases found : readLength limit content with fault | _ | length <;> rw [found] at read
          · cases read
          · cases read
            exact ⟨_, by rw [marked]; simp, .nullBulk (readLength_eq_none_iff.1 found)⟩
          · obtain ⟨value, written, exact_length, allowed⟩ := readLength_eq_some_iff.1 found
            dsimp only at read
            cases took : readPayload length behind <;> rw [took] at read <;> cases read
            obtain ⟨rfl, rfl⟩ := readPayload_eq_done_iff.1 took
            exact ⟨_, by rw [marked]; simp, .bulk written exact_length allowed⟩
        · rcases found : readLength limit content with fault | _ | count <;> rw [found] at read
          · cases read
          · cases read
            exact ⟨_, by rw [marked]; simp, .null (readLength_eq_none_iff.1 found)⟩
          · obtain ⟨value, written, exact_count, allowed⟩ := readLength_eq_some_iff.1 found
            dsimp only at read
            cases took : Parsed.replicate (parseWithin limit depth) count behind <;>
              rw [took] at read <;> cases read
            obtain ⟨rfl, body, rfl, row⟩ := derivesAll_of_replicate ih took
            exact ⟨_, by rw [marked]; simp, .array written exact_count allowed row⟩
        · cases read

/-- Every derivation has a byte. -/
theorem Derives.length_pos {frame : Frame} {front : Bytes} (derived : Derives limit frame front) :
    0 < front.length := by
  cases derived <;> simp only [line, List.cons_append, List.length_cons, Nat.zero_lt_succ]

mutual

/-- A derivation of a frame is read as this frame, and what is behind it is left. -/
theorem parseWithin_of_derives {frame : Frame} {front : Bytes} (derived : Derives limit frame front)
    {depth : Nat} {more : Bytes} (enough : (front ++ more).length ≤ depth) :
    parseWithin limit depth (front ++ more) = .done frame more := by
  -- A derivation has a byte at least, so there is a level of nesting to read it at.
  obtain ⟨depth, rfl⟩ : ∃ fewer, depth = fewer + 1 := by
    -- A byte in front is a byte at all.
    have := derived.length_pos
    rw [List.length_append] at enough
    exact Nat.exists_eq_succ_of_ne_zero (by omega)
  cases derived with
  | @simple text unbroken =>
    have found := splitLine?_unbroken unbroken more
    have read := readText_eq_ok_iff.2 (rfl : Utf8.encode text = _)
    simp [line_append, parseWithin, found, read]
  | @error text unbroken =>
    have found := splitLine?_unbroken unbroken more
    have read := readText_eq_ok_iff.2 (rfl : Utf8.encode text = _)
    simp [line_append, parseWithin, found, read]
  | integer written =>
    have found := splitLine?_unbroken written.unbroken more
    simp [line_append, parseWithin, found, readInteger_eq_ok_iff.2 written]
  | @bulk number payload length written exact_length allowed =>
    -- The payload may hold line ends; the first one is that of its length.
    have found := splitLine?_unbroken written.unbroken (payload ++ (crlf ++ more))
    have announced : readLength limit number = .ok (some payload.length) :=
      readLength_eq_some_iff.2 ⟨length, written, exact_length, allowed⟩
    have read : readPayload payload.length (payload ++ (crlf ++ more)) = .done payload more :=
      readPayload_eq_done_iff.2 ⟨rfl, rfl⟩
    simp [line_append, parseWithin, found, announced, read]
  | nullBulk written =>
    have found := splitLine?_unbroken written.unbroken more
    simp [line_append, parseWithin, found, readLength_eq_none_iff.2 written]
  | @array number body count items written exact_count allowed row =>
    have found := splitLine?_unbroken written.unbroken (body ++ more)
    have announced : readLength limit number = .ok (some items.length) :=
      readLength_eq_some_iff.2 ⟨count, written, exact_count, allowed⟩
    -- The marker takes the byte that the level of nesting costs.
    have inner : (body ++ more).length ≤ depth := by
      simp only [line, List.cons_append, List.length_cons, List.length_append] at enough ⊢
      omega
    have read : Parsed.replicate (parseWithin limit depth) items.length (body ++ more) =
        .done items more := replicate_of_derivesAll row inner
    simp [line_append, parseWithin, found, announced, read]
  | null written =>
    have found := splitLine?_unbroken written.unbroken more
    simp [line_append, parseWithin, found, readLength_eq_none_iff.2 written]

/-- Derivations of frames in a row are read as these frames, and what is behind them is left. -/
theorem replicate_of_derivesAll {items : List Frame} {body : Bytes}
    (row : DerivesAll limit items body) {depth : Nat} {more : Bytes}
    (enough : (body ++ more).length ≤ depth) :
    Parsed.replicate (parseWithin limit depth) items.length (body ++ more) = .done items more := by
  cases row with
  | nil => rfl
  | @cons item rest front back first others =>
    rw [List.append_assoc] at enough ⊢
    -- The first frame is read, and the others are read behind it.
    have one : parseWithin limit depth (front ++ (back ++ more)) = .done item (back ++ more) :=
      parseWithin_of_derives first enough
    have left : (back ++ more).length ≤ depth := by
      rw [List.length_append] at enough
      omega
    have all : Parsed.replicate (parseWithin limit depth) rest.length (back ++ more) =
        .done rest more := replicate_of_derivesAll others left
    rw [List.length_cons, Parsed.replicate, one]
    simp only [all]

end

/-- A frame is read exactly from the bytes that derive it, and what is behind them is left. -/
theorem parse_eq_done_iff {limit : Nat} {bytes rest : Bytes} {frame : Frame} :
    parse limit bytes = .done frame rest ↔
      ∃ front, front ++ rest = bytes ∧ Derives limit frame front := by
  constructor
  -- What is read is derived, and what is derived is read.
  · exact derives_of_parseWithin
  · rintro ⟨front, rfl, derived⟩
    exact parseWithin_of_derives derived (Nat.le_refl _)

/-- Reading a frame follows the grammar: a frame is read, and a rest left, exactly if what stands
before the rest derives the frame. Of all that some bytes begin with, one part at most derives a
frame, and it derives one frame only. -/
theorem parsing_follows_grammar (limit : Nat) (bytes : Bytes) :
    (∀ frame rest, parse limit bytes = .done frame rest ↔
      ∃ front, front ++ rest = bytes ∧ Derives limit frame front) ∧
    ∀ frame other front part, front <+: bytes → part <+: bytes → Derives limit frame front →
      Derives limit other part → front = part ∧ frame = other := by
  refine ⟨fun frame rest => parse_eq_done_iff, ?_⟩
  rintro frame other front part ⟨rest, rfl⟩ ⟨left, same⟩ derived derivedToo
  -- Both are read from the same bytes, and reading gives one answer.
  have read : parse limit (front ++ rest) = .done frame rest :=
    parse_eq_done_iff.2 ⟨front, rfl, derived⟩
  have readToo : parse limit (front ++ rest) = .done other left :=
    parse_eq_done_iff.2 ⟨part, same, derivedToo⟩
  rw [read] at readToo
  injection readToo with frames rests
  subst frames rests
  exact ⟨(List.append_cancel_right same).symm, rfl⟩

/-- A length may have a sign and leading zeros, also that of a null, and a payload may look like a
frame. -/
theorem parsing_follows_grammar_nested :
    let bytes : Bytes := [42, 43, 50, 13, 10] ++ [36, 45, 48, 49, 13, 10] ++ [36, 48, 52, 13, 10] ++
      [58, 49, 13, 10] ++ [13, 10, 88]
    let frame := array [bulk none, bulk (some [58, 49, 13, 10])]
    parse 9 bytes = .done frame [88] ∧
      ∀ other part, part <+: bytes → Derives 9 other part → other = frame := by
  intro bytes frame
  have read : parse 9 bytes = .done frame [88] := by rfl
  obtain ⟨reads, unique⟩ := parsing_follows_grammar 9 bytes
  -- What was read is derived, and so is the other one.
  obtain ⟨front, whole, derived⟩ := (reads frame [88]).1 read
  refine ⟨read, fun other part begins derivedToo => ?_⟩
  exact (unique _ _ _ _ begins ⟨[88], whole⟩ derivedToo derived).2

end Frame

end RedisCluster
