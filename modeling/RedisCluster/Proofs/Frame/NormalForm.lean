import Mathlib.Data.Nat.Digits.Defs
import RedisCluster.Proofs.Frame.Grammar

/-! The bytes that a frame is encoded as are the normal form of all the bytes that it is decoded from:
they are decoded as this frame, and no other way of writing it is shorter. -/

namespace RedisCluster

namespace Frame

mutual

/-- Every payload in a frame, at any depth, has a length within a limit, and every array a count. -/
def Within (limit : Nat) : Frame → Prop
  | bulk (some payload) => payload.length ≤ limit
  | array items => items.length ≤ limit ∧ AllWithin limit items
  | simple _ | error _ | integer _ | bulk none | null => True

/-- The lengths and counts in all of these frames are within a limit. -/
def AllWithin (limit : Nat) : List Frame → Prop
  | [] => True
  | item :: rest => Within limit item ∧ AllWithin limit rest

end

/-- The greatest length that a header can announce. -/
def maxLength : Nat :=
  2 ^ 63 - 1

/-- A number of 64 bits that is no less than zero is a length that can be announced. -/
theorem le_maxLength {value : Int64} {length : Nat} (same : value.toInt = length) :
    length ≤ maxLength :=
  Nat.le_sub_one_of_lt (length_lt_of_toInt same)

/-- A text with a line end has one among its bytes. -/
theorem infix_encode {text : String} (broken : ['\r', '\n'] <:+: text.toList) :
    crlf <:+: Utf8.encode text := by
  -- Each side of the line end is encoded on its own.
  obtain ⟨front, back, whole⟩ := broken
  refine ⟨front.flatMap String.utf8EncodeChar, back.flatMap String.utf8EncodeChar, ?_⟩
  rw [Utf8.encode, ← whole, List.flatMap_append, List.flatMap_append]
  rfl

/-- So many digits denote no number with more digits. -/
theorem Digits.lt_pow {bytes : Bytes} {amount : Nat} (digits : Digits bytes amount) :
    amount < 10 ^ bytes.length := by
  induction digits with
  | single decimal => exact decimal
  -- One digit more allows for ten times as many numbers.
  | more digits decimal ih =>
    rw [List.length_append, List.length_singleton, Nat.pow_succ]
    omega

/-- No digits that denote a number are fewer than those it is written with. -/
theorem Digits.shortest {bytes : Bytes} {amount : Nat} (digits : Digits bytes amount) :
    (Nat.toDigits 10 amount).length ≤ bytes.length :=
  Nat.toDigits_length 10 amount bytes.length
    (List.length_pos_iff.2 (digits?_of_digits digits).1) digits.lt_pow

/-- A numeral has a byte for each character. -/
theorem numeral_length (n : Int) : (numeral n).length = (toString n).toList.length := by
  rw [← chars_numeral, List.length_map]

/-- The numeral of a natural number is its digits. -/
theorem numeral_length_ofNat (n : Nat) :
    (numeral n).length = (Nat.toDigits 10 n).length := by
  rw [numeral_length]
  exact congrArg List.length (Decimal.toList_ofNat n)

/-- A number is written in no way that is shorter than its numeral. -/
theorem Number.shortest {written : Bytes} {value : Int64} (number : Number written value) :
    (numeral value.toInt).length ≤ written.length := by
  -- With or without a sign the digits are as many as the numeral has, at least.
  cases number with
  | unsigned digits denoted =>
    rw [denoted, numeral_length_ofNat]
    exact digits.shortest
  | positive digits denoted =>
    rw [denoted, numeral_length_ofNat, List.length_cons]
    exact Nat.le_succ_of_le digits.shortest
  | @negative _ amount _ digits denoted =>
    rw [denoted, List.length_cons]
    have enough := digits.shortest
    cases amount with
    -- The numeral of zero has no sign.
    | zero =>
      rw [Int.natCast_zero, Int.neg_zero, ← Int.natCast_zero, numeral_length_ofNat]
      omega
    -- The numeral of any other number has the sign as well.
    | succ amount =>
      have signed : (numeral (Int.negSucc amount)).length =
          (Nat.toDigits 10 (amount + 1)).length + 1 := by
        rw [numeral_length, Decimal.toList_negSucc, List.length_cons]
      exact signed ▸ Nat.succ_le_succ enough

/-- The numeral of a number is a way of writing it. -/
theorem number_numeral (value : Int64) : Number (numeral value.toInt) value :=
  readInteger_eq_ok_iff.1 (readInteger_numeral value)

/-- The numeral of a natural number is digits that denote it. -/
theorem digits_numeral (n : Nat) : Digits (numeral n) n := by
  apply digits_of_digits?
  rw [chars, chars_numeral]
  exact (congrArg Decimal.digits? (Decimal.toList_ofNat n)).trans (Decimal.digits?_toDigits n)

/-- A zero in front of digits changes nothing. -/
theorem Digits.zero_cons {bytes : Bytes} {amount : Nat} (digits : Digits bytes amount) :
    Digits (48 :: bytes) amount := by
  induction digits with
  | @single digit decimal =>
    -- Zero and the digit behind it denote what the digit denotes.
    have both := Digits.more (.single (by decide : 0 < 10)) decimal
    rwa [Nat.zero_mul, Nat.zero_add] at both
  | more _ decimal ih => exact .more ih decimal

/-- Nor do any number of them. -/
theorem Digits.zeros_append {bytes : Bytes} {amount : Nat} (digits : Digits bytes amount)
    (zeros : Nat) : Digits (List.replicate zeros 48 ++ bytes) amount := by
  induction zeros with
  | zero => exact digits
  | succ zeros ih => exact ih.zero_cons

/-- The numeral of a length that can be announced is a way of writing it. -/
theorem number_of_length {length : Nat} (announced : length ≤ maxLength) :
    ∃ value : Int64, value.toInt = length ∧ Number (numeral length) value := by
  -- A length that can be announced is a number of 64 bits.
  have same : (Int64.ofInt length).toInt = length := by
    simp only [maxLength] at announced
    exact Int64.toInt_ofInt_of_le (by omega) (by omega)
  have written := number_numeral (Int64.ofInt length)
  rw [same] at written
  exact ⟨Int64.ofInt length, same, written⟩

/-- A line is no shorter than another one whose content is no shorter. -/
theorem line_length_mono (marker : Char) {content other : Bytes}
    (shorter : content.length ≤ other.length) :
    (line marker content).length ≤ (line marker other).length := by
  simp only [line, List.length_cons, List.length_append]
  omega

variable {limit : Nat}

mutual

/-- A frame that is derived has no broken line. -/
theorem Derives.unbroken {frame : Frame} {front : Bytes} (derived : Derives limit frame front) :
    frame.Unbroken := by
  -- A text is broken exactly if its bytes are.
  cases derived with
  | simple unbroken => exact fun broken => unbroken (infix_encode broken)
  | error unbroken => exact fun broken => unbroken (infix_encode broken)
  | array _ _ _ row => exact row.unbroken
  | integer => trivial
  | bulk => trivial
  | nullBulk => trivial
  | null => trivial

/-- Frames that are derived in a row have no broken line. -/
theorem DerivesAll.unbroken {items : List Frame} {body : Bytes}
    (row : DerivesAll limit items body) : AllUnbroken items := by
  cases row with
  | nil => trivial
  | cons first others => exact ⟨first.unbroken, others.unbroken⟩

end

mutual

/-- The lengths in a frame that is derived are within the limit, and they can be announced. -/
theorem Derives.within {frame : Frame} {front : Bytes} (derived : Derives limit frame front)
    {bound : Nat} (allows : min limit maxLength ≤ bound) : frame.Within bound := by
  cases derived with
  -- The payload has the length that is announced.
  | bulk _ exact_length allowed =>
    exact Nat.le_trans (Nat.le_min.2 ⟨allowed, le_maxLength exact_length⟩) allows
  | array _ exact_count allowed row =>
    exact ⟨Nat.le_trans (Nat.le_min.2 ⟨allowed, le_maxLength exact_count⟩) allows,
      row.within allows⟩
  | simple => trivial
  | error => trivial
  | integer => trivial
  | nullBulk => trivial
  | null => trivial

/-- The lengths in frames that are derived in a row are within the limit, and they can be
announced. -/
theorem DerivesAll.within {items : List Frame} {body : Bytes} (row : DerivesAll limit items body)
    {bound : Nat} (allows : min limit maxLength ≤ bound) : AllWithin bound items := by
  cases row with
  | nil => trivial
  | cons first others => exact ⟨first.within allows, others.within allows⟩

end

mutual

/-- A frame without broken lines, whose lengths are within the limit and can be announced, is derived
by its encoding. -/
theorem derives_encode {frame : Frame} (unbroken : frame.Unbroken)
    (within : frame.Within (min limit maxLength)) : Derives limit frame frame.encode := by
  -- Every kind of frame has a rule of its own.
  cases frame with
  | simple text => exact .simple (encode_unbroken unbroken)
  | error text => exact .error (encode_unbroken unbroken)
  | integer value => exact .integer (number_numeral value)
  | null => exact .null (number_numeral (-1))
  | bulk payload =>
    cases payload with
    | none => exact .nullBulk (number_numeral (-1))
    | some payload =>
      -- The length keeps to both bounds.
      obtain ⟨allowed, announced⟩ := Nat.le_min.1 within
      obtain ⟨length, same, written⟩ := number_of_length announced
      exact .bulk written same allowed
  | array items =>
    obtain ⟨allowed, announced⟩ := Nat.le_min.1 within.1
    obtain ⟨count, same, written⟩ := number_of_length announced
    exact .array written same allowed (derivesAll_encodeAll unbroken within.2)

/-- Frames without broken lines, whose lengths are within the limit and can be announced, are derived
in a row by their encodings. -/
theorem derivesAll_encodeAll {items : List Frame} (unbroken : AllUnbroken items)
    (within : AllWithin (min limit maxLength) items) :
    DerivesAll limit items (encodeAll items) := by
  cases items with
  | nil => exact .nil
  | cons item rest =>
    exact .cons (derives_encode unbroken.1 within.1) (derivesAll_encodeAll unbroken.2 within.2)

end

/-- The frames that are derived at all are those without broken lines whose lengths are within the
limit and can be announced. -/
theorem derivable_iff {frame : Frame} :
    (∃ front, Derives limit frame front) ↔
      frame.Unbroken ∧ frame.Within (min limit maxLength) :=
  ⟨fun ⟨_, derived⟩ => ⟨derived.unbroken, derived.within (Nat.le_refl _)⟩,
    fun ⟨unbroken, within⟩ => ⟨_, derives_encode unbroken within⟩⟩

mutual

/-- No derivation of a frame is shorter than its encoding. -/
theorem Derives.shortest {frame : Frame} {front : Bytes} (derived : Derives limit frame front) :
    frame.encode.length ≤ front.length := by
  -- Payloads and texts are the same in both, so only the numbers can differ in length.
  cases derived with
  | simple _ => exact Nat.le_refl _
  | error _ => exact Nat.le_refl _
  | integer written => exact line_length_mono _ written.shortest
  | nullBulk written => exact line_length_mono _ written.shortest
  | null written => exact line_length_mono _ written.shortest
  | bulk written exact_length _ =>
    -- The payload is the same, and the header is no longer than the one it came with.
    have header := line_length_mono '$' (exact_length ▸ written.shortest)
    simp only [encode, List.length_append] at header ⊢
    omega
  | array written exact_count _ row =>
    have header := line_length_mono '*' (exact_count ▸ written.shortest)
    have items := row.shortest
    simp only [encode, List.length_append] at header ⊢
    omega

/-- No derivation of frames in a row is shorter than their encodings. -/
theorem DerivesAll.shortest {items : List Frame} {body : Bytes}
    (row : DerivesAll limit items body) : (encodeAll items).length ≤ body.length := by
  cases row with
  -- Each of the frames is encoded no longer than it was written.
  | nil => exact Nat.le_refl _
  | cons first others =>
    have front := first.shortest
    have back := others.shortest
    simp only [encodeAll, List.length_append]
    omega

end

/-- A header announces the same length whatever way its number is written. -/
theorem readLength_of_number (limit : Nat) {written : Bytes} {value : Int64}
    (number : Number written value) :
    readLength limit written = readLength limit (numeral value.toInt) := by
  -- Both ways are read as one number.
  rw [readLength, readLength, readInteger_eq_ok_iff.2 number, readInteger_numeral]

/-- What is read behind a header does not depend on the way its number is written. -/
theorem parse_of_number {marker : Char} (counts : marker ∈ [':', '$', '*']) {written : Bytes}
    {value : Int64} (number : Number written value) (tail : Bytes) :
    parse limit (line marker written ++ tail) =
      parse limit (line marker (numeral value.toInt) ++ tail) := by
  -- One depth is enough for both, of which each has a marker at least.
  have depth : ∀ content, content.length ≤ written.length + (numeral value.toInt).length →
      (line marker content ++ tail).length ≤
        written.length + (numeral value.toInt).length + crlf.length + tail.length + 1 := by
    intro content short
    simp only [line_append, List.length_cons, List.length_append]
    omega
  -- One depth does for both.
  rw [parse_eq limit (depth written (by omega)),
    parse_eq limit (depth (numeral value.toInt) (by omega))]
  have found := splitLine?_unbroken number.unbroken tail
  have found_too := splitLine?_unbroken (numeral_unbroken value.toInt) tail
  have same : readInteger written = readInteger (numeral value.toInt) := by
    rw [readInteger_eq_ok_iff.2 number, readInteger_numeral]
  have same_length := readLength_of_number limit number
  simp only [List.mem_cons, List.not_mem_nil, or_false] at counts
  -- Only the line of a number, that of a payload and that of an array have a number in them.
  rcases counts with rfl | rfl | rfl <;>
    simp [line_append, parseWithin, found, found_too, same, same_length]

end Frame

namespace Decoder

/-- The encoding of the first frame in some bytes. -/
def reencode? (limit : Nat) (bytes : Bytes) : Option Bytes :=
  match (⟨limit, bytes⟩ : Decoder).decode.1 with
  | .ok (some frame) => some frame.encode
  | _ => none

/-- An integer is written with its numeral, whatever way it was written before. -/
theorem reencode?_integer {limit : Nat} {written : Bytes} {value : Int64}
    (number : Frame.Number written value) :
    reencode? limit (Frame.line ':' written) =
      some (Frame.line ':' (Frame.numeral value.toInt)) := by
  have read : decode ⟨limit, Frame.line ':' written⟩ = (.ok (some (.integer value)), ⟨limit, []⟩) :=
    decode_of_done (Frame.parse_eq_done_iff.2 ⟨_, List.append_nil _, .integer number⟩)
  rw [reencode?, read]
  rfl

/-- The encoding of a frame that was decoded is decoded as this frame, whatever follows it. -/
theorem decode_encode {decoder after : Decoder} {frame : Frame}
    (taken : decoder.decode = (.ok (some frame), after)) (more : Bytes) :
    decode ⟨decoder.limit, frame.encode ++ more⟩ = (.ok (some frame), ⟨decoder.limit, more⟩) := by
  -- What was decoded was derived, and what is derived has a derivation that is its encoding.
  obtain ⟨front, -, derived⟩ := Frame.parse_eq_done_iff.1 (parse_of_decode taken).1
  obtain ⟨unbroken, within⟩ := Frame.derivable_iff.1 ⟨front, derived⟩
  exact decode_of_done
    (Frame.parse_eq_done_iff.2 ⟨_, rfl, Frame.derives_encode unbroken within⟩)

/-- Encoding what was decoded is a normal form. A frame that is decoded has no line end in its texts,
its lengths are within the limit, its encoding has no more bytes than it was decoded from, and this
encoding is decoded as the frame again; so a second pass changes nothing of what a first one gives.
All the ways of writing the number in a header are read alike, and an integer may have a sign, also
that of minus zero, and any number of zeros in front. -/
theorem decoded_in_normal_form (limit : Nat) :
    (∀ (decoder after : Decoder) (frame : Frame), decoder.limit = limit →
      decoder.decode = (.ok (some frame), after) →
      frame.Unbroken ∧ frame.Within limit ∧
        frame.encode.length + after.buffered ≤ decoder.buffered ∧
        ∀ more, decode ⟨limit, frame.encode ++ more⟩ = (.ok (some frame), ⟨limit, more⟩)) ∧
    (∀ bytes, (reencode? limit bytes).bind (reencode? limit) = reencode? limit bytes) ∧
    (∀ marker ∈ [':', '$', '*'], ∀ written value, Frame.Number written value → ∀ tail,
      Frame.parse limit (Frame.line marker written ++ tail) =
        Frame.parse limit (Frame.line marker (Frame.numeral value.toInt) ++ tail)) ∧
    ∀ zeros amount : Nat, amount ≤ Frame.maxLength →
      let digits := List.replicate zeros 48 ++ Frame.numeral amount
      reencode? limit (Frame.line ':' digits) = some (Frame.line ':' (Frame.numeral amount)) ∧
        reencode? limit (Frame.line ':' (43 :: digits)) =
          some (Frame.line ':' (Frame.numeral amount)) ∧
        reencode? limit (Frame.line ':' (45 :: digits)) =
          some (Frame.line ':' (Frame.numeral (-amount))) := by
  refine ⟨?_, fun bytes => ?_, fun marker counts written value number tail =>
    Frame.parse_of_number counts number tail, ?_⟩
  · rintro decoder after frame rfl taken
    -- The bytes that were taken derive the frame.
    obtain ⟨front, whole, derived⟩ := Frame.parse_eq_done_iff.1 (parse_of_decode taken).1
    refine ⟨derived.unbroken, derived.within (Nat.min_le_left _ _), ?_, decode_encode taken⟩
    rw [buffered, buffered, ← whole, List.length_append]
    exact Nat.add_le_add_right derived.shortest _
  -- Without a first frame there is nothing to encode again.
  · unfold reencode?
    split
    · rename_i frame decoded
      -- With nothing behind it the encoding is decoded as the frame.
      have again := decode_encode (Prod.ext decoded rfl) []
      rw [List.append_nil] at again
      simp [again]
    · rfl
  · intro zeros amount announced digits
    have denoted : Frame.Digits digits amount := (Frame.digits_numeral amount).zeros_append zeros
    -- The number and its opposite have 64 bits.
    simp only [Frame.maxLength] at announced
    have same : (Int64.ofInt amount).toInt = amount :=
      Int64.toInt_ofInt_of_le (by omega) (by omega)
    have negated : (Int64.ofInt (-amount)).toInt = -amount :=
      Int64.toInt_ofInt_of_le (by omega) (by omega)
    refine ⟨?_, ?_, ?_⟩
    · exact same ▸ reencode?_integer (.unsigned denoted same)
    · exact same ▸ reencode?_integer (.positive denoted same)
    · exact negated ▸ reencode?_integer (.negative denoted negated)

/-- An array with a plus sign and zeros in its headers, behind which a payload looks like a frame, is
written with fewer bytes, and so is minus zero. -/
theorem decoded_in_normal_form_nested :
    let bytes : Bytes := [42, 43, 48, 51, 13, 10] ++ [36, 45, 48, 49, 13, 10] ++
      [36, 48, 52, 13, 10, 58, 49, 13, 10, 13, 10] ++ [58, 45, 48, 48, 13, 10]
    let frame := Frame.array [.bulk none, .bulk (some [58, 49, 13, 10]), .integer 0]
    frame.encode.length = 23 ∧ bytes.length = 29 ∧ frame.Within 9 ∧
      reencode? 9 bytes = some frame.encode ∧ reencode? 9 frame.encode = some frame.encode := by
  intro bytes frame
  -- The bytes are those of one frame, all of them.
  have read : decode ⟨9, bytes⟩ = (.ok (some frame), ⟨9, []⟩) := by rfl
  obtain ⟨normal, again, -⟩ := decoded_in_normal_form 9
  have first : reencode? 9 bytes = some frame.encode := by rw [reencode?, read]
  refine ⟨by decide, rfl, (normal _ _ _ rfl read).2.1, first, ?_⟩
  have second := again bytes
  rwa [first] at second

end Decoder

end RedisCluster
