import RedisCluster.Proofs.Text.Utf8

/-! Only the bytes of a text are read as a text: no overlong form, no surrogate, and nothing beyond
the last character. -/

namespace RedisCluster.Utf8

/-- The number of a character is the one it was made of, unless this is a surrogate or too large. -/
theorem val_ofNat {v : Nat} (valid : v < 0xD800 ∨ (0xDFFF < v ∧ v < 0x110000)) :
    (Char.ofNat v).val.toNat = v := by
  rw [Char.ofNat, dif_pos valid]
  rfl

/-- A byte is determined by its number. -/
theorem ofNat_eq {byte : UInt8} {n : Nat} (same : n = byte.toNat) : UInt8.ofNat n = byte := by
  rw [same, UInt8.ofNat_toNat]

/-- A byte below 128 is all of a character. -/
theorem utf8EncodeChar_one {byte : UInt8} (small : byte.toNat < 0x80) :
    String.utf8EncodeChar (Char.ofNat byte.toNat) = [byte] := by
  -- A byte below 128 is the number of a character.
  have number : (Char.ofNat byte.toNat).val.toNat = byte.toNat := val_ofNat (by omega)
  simp only [String.utf8EncodeChar, number, if_pos (by omega : byte.toNat ≤ 127), ofNat_eq rfl]

/-- Five bits and six make up a character of two bytes. -/
theorem utf8EncodeChar_two {first last : UInt8} {top low : Nat} (lead : first.toNat = top + 0xC0)
    (second : last.toNat = low + 0x80) (minimal : 2 ≤ top) (small : top < 0x20) (six : low < 0x40) :
    String.utf8EncodeChar (Char.ofNat (top * 64 + low)) = [first, last] := by
  -- The number has bits above the lowest seven, and no more than eleven of them.
  have number : (Char.ofNat (top * 64 + low)).val.toNat = top * 64 + low := val_ofNat (by omega)
  simp only [String.utf8EncodeChar, number, if_neg (by omega : ¬ top * 64 + low ≤ 127),
    if_pos (by omega : top * 64 + low ≤ 2047), List.cons.injEq, and_true]
  exact ⟨ofNat_eq (by omega), ofNat_eq (by omega)⟩

/-- Four bits and twice six make up a character of three bytes. -/
theorem utf8EncodeChar_three {first middle last : UInt8} {top high low : Nat}
    (lead : first.toNat = top + 0xE0) (second : middle.toNat = high + 0x80)
    (third : last.toNat = low + 0x80) (small : top < 0x10) (six : high < 0x40) (sixToo : low < 0x40)
    (minimal : top = 0 → 0x20 ≤ high) (proper : top = 13 → high < 0x20) :
    String.utf8EncodeChar (Char.ofNat ((top * 64 + high) * 64 + low)) = [first, middle, last] := by
  -- It needs more than eleven bits, and it is no surrogate.
  have number : (Char.ofNat ((top * 64 + high) * 64 + low)).val.toNat =
      (top * 64 + high) * 64 + low := val_ofNat (by omega)
  simp only [String.utf8EncodeChar, number,
    if_neg (by omega : ¬ (top * 64 + high) * 64 + low ≤ 127),
    if_neg (by omega : ¬ (top * 64 + high) * 64 + low ≤ 2047),
    if_pos (by omega : (top * 64 + high) * 64 + low ≤ 65535), List.cons.injEq, and_true]
  exact ⟨ofNat_eq (by omega), ofNat_eq (by omega), ofNat_eq (by omega)⟩

/-- Three bits and three times six make up a character of four bytes. -/
theorem utf8EncodeChar_four {first middle next last : UInt8} {top high mid low : Nat}
    (lead : first.toNat = top + 0xF0) (second : middle.toNat = high + 0x80)
    (third : next.toNat = mid + 0x80) (fourth : last.toNat = low + 0x80) (small : top ≤ 4)
    (six : high < 0x40) (sixToo : mid < 0x40) (sixAsWell : low < 0x40)
    (minimal : top = 0 → 0x10 ≤ high) (proper : top = 4 → high < 0x10) :
    String.utf8EncodeChar (Char.ofNat (((top * 64 + high) * 64 + mid) * 64 + low)) =
      [first, middle, next, last] := by
  -- It needs more than sixteen bits, and it is not beyond the last character.
  have number : (Char.ofNat (((top * 64 + high) * 64 + mid) * 64 + low)).val.toNat =
      ((top * 64 + high) * 64 + mid) * 64 + low := val_ofNat (by omega)
  simp only [String.utf8EncodeChar, number,
    if_neg (by omega : ¬ ((top * 64 + high) * 64 + mid) * 64 + low ≤ 127),
    if_neg (by omega : ¬ ((top * 64 + high) * 64 + mid) * 64 + low ≤ 2047),
    if_neg (by omega : ¬ ((top * 64 + high) * 64 + mid) * 64 + low ≤ 65535), List.cons.injEq,
    and_true]
  exact ⟨ofNat_eq (by omega), ofNat_eq (by omega), ofNat_eq (by omega), ofNat_eq (by omega)⟩

/-- A byte that opens a character says how many others follow, and which the next may be. -/
theorem opens_cases {byte : UInt8} {u : Unfinished} (opening : lead byte = .opens u) :
    (u.missing = 0 ∧ byte.toNat = u.value + 0xC0 ∧ 2 ≤ u.value ∧ u.value < 0x20 ∧
      u.low = 0x80 ∧ u.high = 0xBF) ∨
    (u.missing = 1 ∧ byte.toNat = u.value + 0xE0 ∧ u.value < 0x10 ∧ 0x80 ≤ u.low ∧ u.high ≤ 0xBF ∧
      (u.value = 0 → u.low = 0xA0) ∧ (u.value = 13 → u.high = 0x9F)) ∨
    (u.missing = 2 ∧ byte.toNat = u.value + 0xF0 ∧ u.value ≤ 4 ∧ 0x80 ≤ u.low ∧ u.high ≤ 0xBF ∧
      (u.value = 0 → u.low = 0x90) ∧ (u.value = 4 → u.high = 0x8F)) := by
  simp only [lead, beq_iff_eq] at opening
  -- One case for each row of the table, in which all numbers but one are known.
  repeat' split at opening
  all_goals cases opening <;> dsimp only <;> omega

/-- Where the characters are all there, none of them is missing. -/
theorem mapM_cons_eq_some {found : Option Char} {others : List (Option Char)} {chars : List Char}
    (all : (found :: others).mapM id = some chars) :
    ∃ c rest, found = some c ∧ chars = c :: rest ∧ others.mapM id = some rest := by
  cases found with
  | none => simp at all
  | some c =>
    cases remaining : others.mapM id with
    | none => simp [remaining] at all
    | some rest =>
      refine ⟨c, rest, rfl, ?_, rfl⟩
      simpa [remaining] using all.symm

/-- Bytes that read well in the middle of a character go on with a byte within the bounds. -/
theorem scan_continues {u : Unfinished} {bytes : Bytes} {chars : List Char}
    (read : (scan (some u) bytes).mapM id = some chars) :
    ∃ byte rest, bytes = byte :: rest ∧ u.low ≤ byte.toNat ∧ byte.toNat ≤ u.high ∧
      match u.missing with
      | 0 => ∃ others, chars = Char.ofNat (u.value * 64 + (byte.toNat - 0x80)) :: others ∧
          (scan none rest).mapM id = some others
      | missing + 1 =>
        (scan (some ⟨missing, 0x80, 0xBF, u.value * 64 + (byte.toNat - 0x80)⟩) rest).mapM id =
          some chars := by
  cases bytes with
  | nil => simp [scan] at read
  | cons byte rest =>
    by_cases within : u.low ≤ byte.toNat ∧ byte.toNat ≤ u.high
    · refine ⟨byte, rest, rfl, within.1, within.2, ?_⟩
      obtain ⟨missing, low, high, value⟩ := u
      cases missing with
      -- The last byte completes the character.
      | zero =>
        rw [scan_last within.1 within.2] at read
        obtain ⟨c, others, found, whole, remaining⟩ := mapM_cons_eq_some read
        obtain rfl := Option.some.inj found
        exact ⟨others, whole, remaining⟩
      -- Another byte is still to come.
      | succ missing =>
        rw [scan_middle within.1 within.2] at read
        exact read
    · -- A byte out of bounds leaves a malformed part behind.
      have strays : push (some u) byte = (none :: (start byte).1, (start byte).2) := by
        simp only [push, Bool.and_eq_true, decide_eq_true_eq, if_neg within]
      rw [scan_cons, strays, List.cons_append] at read
      obtain ⟨c, others, found, -⟩ := mapM_cons_eq_some read
      cases found

/-- Bytes that read well are those of a character and others that read well. -/
theorem scan_splits {bytes : Bytes} {chars : List Char} (some_bytes : bytes ≠ [])
    (read : (scan none bytes).mapM id = some chars) :
    ∃ c others rest, chars = c :: others ∧ bytes = String.utf8EncodeChar c ++ rest ∧
      (scan none rest).mapM id = some others := by
  cases bytes with
  | nil => exact absurd rfl some_bytes
  | cons byte rest =>
    by_cases small : byte.toNat < 0x80
    · -- The byte is a character of its own.
      rw [scan_ascii small] at read
      obtain ⟨c, others, found, whole, remaining⟩ := mapM_cons_eq_some read
      obtain rfl := Option.some.inj found
      exact ⟨_, others, rest, whole, by rw [utf8EncodeChar_one small]; rfl, remaining⟩
    cases opening : lead byte with
    | ascii c =>
      -- A byte from 128 on is no ASCII character.
      simp only [lead, if_neg small] at opening
      repeat' split at opening
      all_goals cases opening
    | stray =>
      -- A byte that opens no character leaves a malformed part behind.
      rw [scan_cons, push, start, opening] at read
      obtain ⟨c, others, found, -⟩ := mapM_cons_eq_some read
      cases found
    | opens u =>
      rw [scan_lead opening] at read
      obtain ⟨second, rest, rfl, least, most, read⟩ := scan_continues read
      -- Each length has its own way of putting the bits of a character together.
      rcases opens_cases opening with ⟨two, first, minimal, small, low, high⟩ |
        ⟨three, first, small, low, high, minimal, proper⟩ |
        ⟨four, first, small, low, high, minimal, proper⟩
      -- With one byte more the character is complete.
      · rw [two] at read
        obtain ⟨others, rfl, remaining⟩ := read
        have bits : second.toNat = second.toNat - 0x80 + 0x80 := by omega
        refine ⟨_, others, rest, rfl, ?_, remaining⟩
        rw [utf8EncodeChar_two first bits minimal small (by omega)]
        rfl
      -- With two.
      · rw [three] at read
        obtain ⟨third, rest, rfl, leastToo, mostToo, others, rfl, remaining⟩ := scan_continues read
        dsimp only at leastToo mostToo
        have bits : second.toNat = second.toNat - 0x80 + 0x80 := by omega
        have bitsToo : third.toNat = third.toNat - 0x80 + 0x80 := by omega
        refine ⟨_, others, rest, rfl, ?_, remaining⟩
        rw [utf8EncodeChar_three first bits bitsToo small (by omega) (by omega) (by omega)
          (by omega)]
        rfl
      -- With three.
      · rw [four] at read
        obtain ⟨third, rest, rfl, leastToo, mostToo, read⟩ := scan_continues read
        obtain ⟨fourth, rest, rfl, leastLast, mostLast, others, rfl, remaining⟩ :=
          scan_continues read
        dsimp only at leastToo mostToo leastLast mostLast
        have bits : second.toNat = second.toNat - 0x80 + 0x80 := by omega
        have bitsToo : third.toNat = third.toNat - 0x80 + 0x80 := by omega
        have bitsLast : fourth.toNat = fourth.toNat - 0x80 + 0x80 := by omega
        refine ⟨_, others, rest, rfl, ?_, remaining⟩
        rw [utf8EncodeChar_four first bits bitsToo bitsLast small (by omega) (by omega) (by omega)
          (by omega) (by omega)]
        rfl

/-- Bytes that read as characters are the bytes of these characters. -/
theorem eq_of_scan {bytes : Bytes} {chars : List Char}
    (read : (scan none bytes).mapM id = some chars) :
    bytes = chars.flatMap String.utf8EncodeChar := by
  -- Each step takes a character off, and with it a byte at least.
  induction chars generalizing bytes with
  | nil =>
    by_cases some_bytes : bytes = []
    · exact some_bytes
    -- With bytes there would be a character.
    · obtain ⟨c, others, rest, whole, -⟩ := scan_splits some_bytes read
      cases whole
  | cons c chars ih =>
    -- Without bytes there are no characters.
    have some_bytes : bytes ≠ [] := by
      rintro rfl
      simp [scan] at read
    obtain ⟨d, others, rest, whole, rfl, remaining⟩ := scan_splits some_bytes read
    cases whole
    rw [ih remaining, List.flatMap_cons]

/-- The bytes that read as a text are those that it is written as. -/
theorem decode?_eq_some_iff {bytes : Bytes} {text : String} :
    decode? bytes = some text ↔ bytes = encode text := by
  constructor
  · intro read
    -- A text that is read is made of the characters that were found.
    obtain ⟨chars, found, rfl⟩ := Option.map_eq_some_iff.1 read
    rw [encode, String.toList_ofList]
    exact eq_of_scan found
  · rintro rfl
    exact decode?_encode text

end RedisCluster.Utf8
