import Mathlib.Algebra.Group.Nat.Defs
import RedisCluster.Proofs.Frame.Chunks
import RedisCluster.Proofs.Text.Decimal
import RedisCluster.Proofs.Text.Utf8

/-! Frames read back from their wire form as they were written. -/

namespace RedisCluster

/-- A line is found up to its first line end. -/
theorem splitLine?_unbroken {content : Bytes} (unbroken : ¬ crlf <:+: content) (rest : Bytes) :
    splitLine? (content ++ (crlf ++ rest)) = some (content, rest) := by
  induction content with
  | nil => rfl
  | cons byte content ih =>
    -- A carriage return at the end of the text must not pair with the one of its own line end.
    have goesOn : ¬ (byte = 13 ∧ (content ++ (crlf ++ rest)).head? = some 10) := by
      rintro ⟨rfl, follows⟩
      cases content with
      | nil => exact absurd follows (by simp [crlf])
      | cons next content =>
        have feed : next = 10 := by simpa using follows
        subst feed
        exact unbroken ⟨[], content, rfl⟩
    -- A line end within the rest would be one within the whole text.
    have later : ¬ crlf <:+: content := fun found =>
      unbroken (found.trans (List.suffix_cons byte content).isInfix)
    rw [List.cons_append, splitLine?, if_neg goesOn, ih later]
    rfl

namespace Frame

mutual

/-- No simple text of a frame, at any depth, holds a line end. -/
def Unbroken : Frame → Prop
  | simple text | error text => ¬ ['\r', '\n'] <:+: text.toList
  | array items => AllUnbroken items
  | integer _ | bulk _ | null => True

/-- No simple text of any of these frames holds a line end. -/
def AllUnbroken : List Frame → Prop
  | [] => True
  | item :: rest => Unbroken item ∧ AllUnbroken rest

end

/-- A text without a line end has none among its bytes. -/
theorem encode_unbroken {text : String} (unbroken : ¬ ['\r', '\n'] <:+: text.toList) :
    ¬ crlf <:+: Utf8.encode text :=
  fun found => unbroken (Utf8.infix_of_encoded (by decide) (by decide) found)

/-- A numeral keeps to its line. -/
theorem numeral_unbroken (n : Int) : ¬ crlf <:+: numeral n := by
  refine encode_unbroken fun found => ?_
  -- A line end has a carriage return in it, which no number is written with.
  have member : '\r' ∈ (toString n).toList := found.subset (List.mem_cons_self ..)
  exact absurd (Decimal.ascii_of_mem_toString member) (by decide)

/-- The characters of a numeral are those of the number. -/
theorem chars_numeral (n : Int) :
    (numeral n).map (fun byte => Char.ofNat byte.toNat) = (toString n).toList := by
  refine Utf8.chars_of_ascii fun c member => ?_
  rcases Decimal.ascii_of_mem_toString member with digit | rfl
  · -- Digits are ASCII, and so is the minus sign.
    have bounds : '0' ≤ c ∧ c ≤ '9' := Decimal.bounds_of_isDigit digit
    have highest : c.toNat ≤ '9'.toNat := bounds.2
    exact Nat.lt_of_le_of_lt highest (by decide)
  · decide

/-- A number within 64 bits is read back from its numeral. -/
theorem readInteger_numeral (value : Int64) : readInteger (numeral value.toInt) = .ok value := by
  have least : Int64.minValue.toInt ≤ value.toInt := Int64.le_iff_toInt_le.mp (Int64.minValue_le value)
  have most : value.toInt ≤ Int64.maxValue.toInt := Int64.le_iff_toInt_le.mp (Int64.le_maxValue value)
  rw [readInteger, chars_numeral, Decimal.int64?_toString least most, Int64.ofInt_toInt]

/-- A number of 64 bits that is a length leaves room for a sign. -/
theorem length_lt_of_toInt {value : Int64} {length : Nat} (same : value.toInt = length) :
    length < 2 ^ 63 := by
  have most := Int64.le_iff_toInt_le.mp (Int64.le_maxValue value)
  rw [same, Int64.toInt_maxValue] at most
  omega

/-- A length within the limit is read back from its numeral. -/
theorem readLength_numeral {limit length : Nat} (allowed : length ≤ limit)
    (addressable : length < 2 ^ 63) : readLength limit (numeral length) = .ok (some length) := by
  -- A length fits the number that it is written as.
  have same : (Int64.ofInt length).toInt = length :=
    Int64.toInt_ofInt_of_le (by omega) (by omega)
  have read : readInteger (numeral length) = .ok (Int64.ofInt length) := by
    have written := readInteger_numeral (Int64.ofInt length)
    rwa [same] at written
  -- The number is neither the one of a null nor negative, nor beyond the limit.
  have notNull : ¬ (length : Int) = -1 := by omega
  have notNegative : ¬ (length : Int) < 0 := by omega
  have within : ¬ limit < length := by omega
  simp only [readLength, read, same, if_neg notNull, if_neg notNegative, Int.toNat_natCast,
    if_neg within]

/-- A null announces the length minus one. -/
theorem readLength_null (limit : Nat) : readLength limit (numeral (-1)) = .ok none := by
  have read : readInteger (numeral (-1)) = .ok (-1) := readInteger_numeral (-1)
  rw [readLength, read]
  rfl

/-- The marker and the line of a frame stand before whatever follows the line. -/
theorem line_append (marker : Char) (content more : Bytes) :
    line marker content ++ more = UInt8.ofNat marker.toNat :: (content ++ (crlf ++ more)) := by
  rw [line, List.cons_append, List.append_assoc]

/-- Numbers that are written the same are the same. -/
theorem numeral_inj {n m : Int} (same : numeral n = numeral m) : n = m := by
  have chars : (toString n).toList = (toString m).toList := by
    rw [← chars_numeral, ← chars_numeral, same]
  have read := Decimal.signed?_toString m
  rw [← chars, Decimal.signed?_toString] at read
  exact Option.some.inj read

/-- A line ends at its line end: bytes that begin with a line of one kind in two ways have the same
content in it and the same behind it. -/
theorem line_append_inj {marker : Char} {content other more rest : Bytes}
    (unbroken : ¬ crlf <:+: content) (unbrokenToo : ¬ crlf <:+: other)
    (same : line marker content ++ more = line marker other ++ rest) :
    content = other ∧ more = rest := by
  rw [line_append, line_append] at same
  have found := splitLine?_unbroken unbroken more
  rw [List.tail_eq_of_cons_eq same, splitLine?_unbroken unbrokenToo rest] at found
  cases found
  exact ⟨rfl, rfl⟩

/-- A line has at least a marker. -/
theorem line_length_pos (marker : Char) (content : Bytes) : 0 < (line marker content).length :=
  Nat.succ_pos _

/-- Every frame has bytes. -/
theorem encode_length_pos (frame : Frame) : 0 < (encode frame).length := by
  have front (marker : Char) (content more : Bytes) : 0 < (line marker content ++ more).length := by
    rw [line_append]
    exact Nat.succ_pos _
  -- A payload and the items of an array stand behind a line, and all else is one.
  cases frame with
  | bulk payload =>
    cases payload with
    | none => exact Nat.succ_pos _
    | some payload => exact front ..
  | array items => exact front ..
  | _ => exact Nat.succ_pos _

/-- There are no more frames than bytes of theirs. -/
theorem length_le_encodeAll (items : List Frame) : items.length ≤ (encodeAll items).length := by
  induction items with
  | nil => exact Nat.le_refl 0
  | cons item rest ih =>
    -- Each frame adds one to the count and one byte at least.
    have := encode_length_pos item
    rw [encodeAll, List.length_append, List.length_cons]
    omega

mutual

/-- The bytes of a frame are read as this frame, and those behind them are left. -/
theorem parseWithin_encode {limit : Nat} {frame : Frame} (unbroken : Unbroken frame)
    (allowed : (encode frame).length ≤ limit) (addressable : (encode frame).length < 2 ^ 63)
    {depth : Nat} {more : Bytes} (enough : (encode frame ++ more).length ≤ depth) :
    parseWithin limit depth (encode frame ++ more) = .done frame more := by
  -- A frame has a byte at least, so there is a level of nesting to read it at.
  obtain ⟨depth, rfl⟩ : ∃ fewer, depth = fewer + 1 := by
    have := encode_length_pos frame
    rw [List.length_append] at enough
    exact Nat.exists_eq_succ_of_ne_zero (by omega)
  cases frame with
  | simple text =>
    have found := splitLine?_unbroken (encode_unbroken unbroken) more
    simp [encode, line_append, parseWithin, found, readText]
  | error text =>
    have found := splitLine?_unbroken (encode_unbroken unbroken) more
    simp [encode, line_append, parseWithin, found, readText]
  | integer value =>
    have found := splitLine?_unbroken (numeral_unbroken value.toInt) more
    simp [encode, line_append, parseWithin, found, readInteger_numeral]
  | null =>
    have found := splitLine?_unbroken (numeral_unbroken (-1)) more
    simp [encode, line_append, parseWithin, found, readLength_null]
  | bulk payload =>
    cases payload with
    | none =>
      have found := splitLine?_unbroken (numeral_unbroken (-1)) more
      simp [encode, line_append, parseWithin, found, readLength_null]
    | some payload =>
      -- The payload may hold line ends; the first one is that of its length.
      have found := splitLine?_unbroken (numeral_unbroken payload.length) (payload ++ (crlf ++ more))
      simp only [encode, List.length_append] at allowed addressable
      -- The payload is shorter than its frame, so its length is within the limit.
      have announced : readLength limit (numeral payload.length) = .ok (some payload.length) :=
        readLength_numeral (by omega) (by omega)
      have read := readPayload_append payload more
      rw [List.append_assoc] at read
      simp [encode, line_append, parseWithin, found, announced, read]
  | array items =>
    have found := splitLine?_unbroken (numeral_unbroken items.length) (encodeAll items ++ more)
    simp only [encode, List.length_append] at allowed addressable enough
    have marked := line_length_pos '*' (numeral items.length)
    -- A frame of the array has a byte at least, so the count is within the limit as well.
    have counted := length_le_encodeAll items
    have announced : readLength limit (numeral items.length) = .ok (some items.length) :=
      readLength_numeral (by omega) (by omega)
    -- The marker takes the byte that the level of nesting costs.
    have inner : (encodeAll items ++ more).length ≤ depth := by
      rw [List.length_append]
      omega
    have read : Parsed.replicate (parseWithin limit depth) items.length (encodeAll items ++ more) =
        .done items more := replicate_encodeAll unbroken (by omega) (by omega) inner
    simp [encode, line_append, parseWithin, found, announced, read]

/-- The bytes of frames in a row are read as these frames, and those behind them are left. -/
theorem replicate_encodeAll {limit : Nat} {items : List Frame} (unbroken : AllUnbroken items)
    (allowed : (encodeAll items).length ≤ limit) (addressable : (encodeAll items).length < 2 ^ 63)
    {depth : Nat} {more : Bytes} (enough : (encodeAll items ++ more).length ≤ depth) :
    Parsed.replicate (parseWithin limit depth) items.length (encodeAll items ++ more) =
      .done items more := by
  cases items with
  | nil => rfl
  | cons item rest =>
    obtain ⟨first, others⟩ := unbroken
    simp only [encodeAll, List.length_append] at allowed addressable enough
    -- The bytes of the others follow those of the first.
    have one : parseWithin limit depth (encode item ++ (encodeAll rest ++ more)) =
        .done item (encodeAll rest ++ more) :=
      parseWithin_encode first (by omega) (by omega) (by simp only [List.length_append]; omega)
    have all : Parsed.replicate (parseWithin limit depth) rest.length (encodeAll rest ++ more) =
        .done rest more :=
      replicate_encodeAll others (by omega) (by omega) (by rw [List.length_append]; omega)
    rw [encodeAll, List.append_assoc, List.length_cons, Parsed.replicate, one]
    simp only [all]

end

/-- A frame is read back from its bytes whatever follows them. -/
theorem parse_encode {limit : Nat} {frame : Frame} (unbroken : Unbroken frame)
    (allowed : (encode frame).length ≤ limit) (addressable : (encode frame).length < 2 ^ 63)
    (more : Bytes) : parse limit (encode frame ++ more) = .done frame more :=
  parseWithin_encode unbroken allowed addressable (Nat.le_refl _)

/-- An error reply is read back whatever the limit, which is about payloads and arrays alone. -/
theorem parse_encode_error {text : String} (unbroken : Unbroken (.error text)) (limit : Nat) :
    parse limit (encode (.error text)) = .done (.error text) [] := by
  have found := splitLine?_unbroken (encode_unbroken unbroken) []
  rw [List.append_nil] at found
  simp [parse, encode, line, parseWithin, found, readText]

/-- Frames whose bytes a decoder holds are drained as they were written, and nothing is left. -/
theorem drain_encodeAll {limit : Nat} {frames : List Frame} (unbroken : AllUnbroken frames)
    (allowed : (encodeAll frames).length ≤ limit) (addressable : (encodeAll frames).length < 2 ^ 63) :
    (⟨limit, encodeAll frames⟩ : Decoder).drain = (frames, none, ⟨limit, []⟩) := by
  induction frames with
  | nil => rfl
  | cons frame rest ih =>
    obtain ⟨first, others⟩ := unbroken
    rw [encodeAll, List.length_append] at allowed addressable
    -- The first frame is taken, and the bytes of the others are left.
    have read : parse limit (encode frame ++ encodeAll rest) = .done frame (encodeAll rest) :=
      parse_encode first (by omega) (by omega) _
    rw [encodeAll, Decoder.drain_of_done read]
    simp only [ih others (by omega) (by omega)]

/-- Frames are decoded as they were encoded, however their bytes are cut into chunks: all of them, in
their order, without an error and with nothing left over. No buffer holds `2 ^ 63` bytes. -/
theorem feed_encodeAll (frames : List Frame) (unbroken : AllUnbroken frames) (limit : Nat)
    (allowed : (encodeAll frames).length ≤ limit) (addressable : (encodeAll frames).length < 2 ^ 63)
    (chunks : List Bytes) (cut : chunks.flatten = encodeAll frames) :
    Decoder.feed ⟨limit, []⟩ chunks = (frames, none, ⟨limit, []⟩) := by
  -- The cuts make no difference, so the bytes may as well come as one.
  rw [Decoder.feed_eq_drain_flatten (by rw [cut]; exact allowed), cut]
  exact drain_encodeAll unbroken allowed addressable

/-- An array of nulls and of a payload with a line end in it, behind an error, cut within the first
line end and within the payload. -/
theorem feed_encodeAll_cut :
    let frames := [Frame.error "no", .array [.bulk none, .null, .bulk (some [13, 10]), .integer (-7)]]
    let chunks : List Bytes := [[45, 110, 111, 13], [], [10, 42, 52, 13, 10, 36, 45, 49, 13, 10, 42, 45,
      49, 13, 10, 36, 50, 13, 10, 13], [10, 13, 10, 58, 45, 55, 13, 10]]
    Decoder.feed ⟨64, []⟩ chunks = (frames, none, ⟨64, []⟩) := by
  intro frames chunks
  have whole : encodeAll frames = chunks.flatten := by decide +kernel
  have oneLine : ¬ ['\r', '\n'] <:+: "no".toList := by decide
  have unbroken : AllUnbroken frames :=
    ⟨oneLine, ⟨trivial, trivial, trivial, trivial, trivial⟩, trivial⟩
  exact feed_encodeAll frames unbroken 64 (by rw [whole]; decide) (by rw [whole]; decide) chunks
    whole.symm

end Frame

end RedisCluster
