import Mathlib.Data.List.Induction
import RedisCluster.Frame.Decode
import RedisCluster.Frame.Grammar
import RedisCluster.Proofs.Text.Decimal
import RedisCluster.Proofs.Text.Utf8

/-! The lines that are read as numbers are those that the grammar has for them. -/

namespace RedisCluster

namespace Decimal

/-- A sign is no digit. -/
theorem digits?_of_sign {c : Char} (sign : digit? c = none) (rest : List Char) :
    digits? (c :: rest) = none := by
  rw [digits?, digitsFrom?, sign]

/-- A signed number is a sign and digits, or digits alone. -/
theorem signed?_eq_some_iff {text : List Char} {n : Int} :
    signed? text = some n ↔
      (∃ rest amount, text = '-' :: rest ∧ digits? rest = some amount ∧ n = -(amount : Int)) ∨
      (∃ rest amount, text = '+' :: rest ∧ digits? rest = some amount ∧ n = amount) ∨
      ∃ amount, digits? text = some amount ∧ n = amount := by
  constructor
  · intro read
    unfold signed? at read
    -- A minus is followed by digits, or it is no number.
    split at read
    · rename_i rest
      cases found : digits? rest with
      | none => simp [found] at read
      | some amount =>
        simp only [found, bind, Option.bind, pure, Option.map_some, Option.some.injEq] at read
        exact .inl ⟨rest, amount, rfl, found, read.symm⟩
    -- A plus may stand in front of the digits, and nothing else.
    · obtain ⟨amount, found, rfl⟩ := Option.map_eq_some_iff.1 read
      unfold unsigned? at found
      split at found
      · exact .inr (.inl ⟨_, amount, rfl, found, rfl⟩)
      · exact .inr (.inr ⟨amount, found, rfl⟩)
  · rintro (⟨rest, amount, rfl, found, rfl⟩ | ⟨rest, amount, rfl, found, rfl⟩ |
      ⟨amount, found, rfl⟩)
    · simp [signed?, found]
    · simp [signed?, unsigned?, found]
    · -- Digits begin with no sign, so none is taken off.
      have notMinus : ∀ rest, text ≠ '-' :: rest := by
        rintro rest rfl
        rw [digits?_of_sign rfl] at found
        cases found
      have notPlus : ∀ rest, text ≠ '+' :: rest := by
        rintro rest rfl
        rw [digits?_of_sign rfl] at found
        cases found
      rw [signed?.eq_2 _ notMinus, unsigned?.eq_2 _ notPlus, found]
      rfl

/-- A number of 64 bits is read where a number is written that has its value. -/
theorem int64?_eq_some_iff {text : List Char} {value : Int64} :
    int64? text = some value ↔ signed? text = some value.toInt := by
  have least : Int64.minValue.toInt ≤ value.toInt :=
    Int64.le_iff_toInt_le.mp (Int64.minValue_le value)
  have most : value.toInt ≤ Int64.maxValue.toInt :=
    Int64.le_iff_toInt_le.mp (Int64.le_maxValue value)
  constructor
  · intro read
    unfold int64? at read
    -- A text that is no number, or one that is too large or too small.
    split at read
    · cases read
    · rename_i n written
      split at read
      · rename_i fits
        obtain rfl := Option.some.inj read
        rw [Int64.toInt_minValue, Int64.toInt_maxValue] at fits
        -- A number within the bounds is not changed by keeping it in 64 bits.
        rw [written, Int64.toInt_ofInt_of_le fits.1 (by omega)]
      · cases read
  · intro written
    -- Every value is within the bounds of its kind.
    rw [int64?, written]
    exact (if_pos ⟨least, most⟩).trans (by rw [Int64.ofInt_toInt])

end Decimal

namespace Frame

/-- The characters that the bytes of a line stand for, one by one. -/
def chars (bytes : Bytes) : List Char :=
  bytes.map fun byte => Char.ofNat byte.toNat

/-- The character of a byte has its number. -/
theorem toNat_char (byte : UInt8) : (Char.ofNat byte.toNat).toNat = byte.toNat := by
  -- All bytes are characters.
  have small : byte.toNat < 256 := byte.toNat_lt
  rw [Char.ofNat, dif_pos (.inl (by omega))]
  rfl

/-- The byte of a digit is that far from the byte of zero. -/
theorem digit?_eq_some {byte : UInt8} {digit : Nat} :
    Decimal.digit? (Char.ofNat byte.toNat) = some digit ↔
      digit < 10 ∧ byte = UInt8.ofNat (48 + digit) := by
  rw [Decimal.digit?_eq_some_iff, toNat_char]
  refine and_congr_right fun decimal => ?_
  rw [← UInt8.toNat_inj, Utf8.toNat_ofNat (by omega)]

/-- Digits are read as the number that they denote. -/
theorem digits?_of_digits {bytes : Bytes} {amount : Nat} (digits : Digits bytes amount) :
    bytes ≠ [] ∧ Decimal.digits? (chars bytes) = some amount := by
  induction digits with
  -- One digit alone denotes itself.
  | single decimal =>
    have read := digit?_eq_some.2 ⟨decimal, rfl⟩
    refine ⟨by simp, ?_⟩
    simp only [chars, List.map_singleton, Decimal.digits?, Decimal.digitsFrom?, read, Nat.zero_mul,
      Nat.zero_add]
  | more digits decimal ih =>
    have read := digit?_eq_some.2 ⟨decimal, rfl⟩
    obtain ⟨some_digits, front⟩ := ih
    refine ⟨by simp, ?_⟩
    -- What stands in front has the value to which the last digit is added.
    rw [chars, Decimal.digits?_eq (by simpa using some_digits)] at front
    rw [chars, Decimal.digits?_eq (by simp), List.map_append, List.map_singleton,
      Decimal.digitsFrom?_concat, front]
    simp only [Option.bind_some, read, Option.map_some]

/-- What is read as a number is digits that denote it. -/
theorem digits_of_digits? {bytes : Bytes} {amount : Nat}
    (read : Decimal.digits? (chars bytes) = some amount) : Digits bytes amount := by
  -- The digits are taken off from the end, as the grammar puts them there.
  induction bytes using List.reverseRecOn generalizing amount with
  | nil => cases read
  | append_singleton front last ih =>
    -- The last digit is read behind those in front of it.
    rw [chars, Decimal.digits?_eq (by simp), List.map_append, List.map_singleton,
      Decimal.digitsFrom?_concat] at read
    obtain ⟨value, before, added⟩ := Option.bind_eq_some_iff.1 read
    obtain ⟨digit, found, rfl⟩ := Option.map_eq_some_iff.1 added
    obtain ⟨decimal, rfl⟩ := digit?_eq_some.1 found
    -- Without digits in front the last one is all.
    by_cases alone : front = []
    · subst alone
      cases before
      rw [List.nil_append, Nat.zero_mul, Nat.zero_add]
      exact .single decimal
    · rw [← Decimal.digits?_eq (by simpa using alone)] at before
      exact .more (ih before) decimal

/-- A line that begins with a certain ASCII character begins with its byte. -/
theorem eq_cons_of_chars {bytes : Bytes} {c : Char} {rest : List Char} {mark : UInt8}
    (ascii : c.toNat = mark.toNat) (begins : chars bytes = c :: rest) :
    ∃ others, bytes = mark :: others ∧ rest = chars others := by
  obtain ⟨byte, others, rfl, rfl, rfl⟩ := List.map_eq_cons_iff.1 begins
  rw [toNat_char] at ascii
  exact ⟨others, by rw [UInt8.toNat_inj.1 ascii], rfl⟩

/-- A line is read as a number exactly if it is a way of writing it. -/
theorem readInteger_eq_ok_iff {bytes : Bytes} {value : Int64} :
    readInteger bytes = .ok value ↔ Number bytes value := by
  have reads : readInteger bytes = .ok value ↔
      Decimal.signed? (chars bytes) = some value.toInt := by
    rw [← Decimal.int64?_eq_some_iff, readInteger, chars]
    cases Decimal.int64? (bytes.map fun byte => Char.ofNat byte.toNat) <;> simp
  -- The three ways of writing a number are told apart by the first character.
  rw [reads, Decimal.signed?_eq_some_iff]
  constructor
  · rintro (⟨rest, amount, begins, found, denoted⟩ | ⟨rest, amount, begins, found, denoted⟩ |
      ⟨amount, found, denoted⟩)
    · obtain ⟨others, rfl, rfl⟩ := eq_cons_of_chars (by rfl : '-'.toNat = (45 : UInt8).toNat) begins
      exact .negative (digits_of_digits? found) denoted
    · obtain ⟨others, rfl, rfl⟩ := eq_cons_of_chars (by rfl : '+'.toNat = (43 : UInt8).toNat) begins
      exact .positive (digits_of_digits? found) denoted
    · exact .unsigned (digits_of_digits? found) denoted
  · intro written
    cases written with
    | negative digits denoted => exact .inl ⟨_, _, rfl, (digits?_of_digits digits).2, denoted⟩
    | positive digits denoted =>
      exact .inr (.inl ⟨_, _, rfl, (digits?_of_digits digits).2, denoted⟩)
    | unsigned digits denoted => exact .inr (.inr ⟨_, (digits?_of_digits digits).2, denoted⟩)

/-- Digits are none of the bytes below that of zero. -/
theorem Digits.least {bytes : Bytes} {amount : Nat} (digits : Digits bytes amount) :
    ∀ byte ∈ bytes, 48 ≤ byte.toNat := by
  -- A digit is that of zero or one behind it.
  have of_digit {digit : Nat} (decimal : digit < 10) :
      ∀ byte ∈ [UInt8.ofNat (48 + digit)], 48 ≤ byte.toNat := by
    intro byte member
    rw [List.mem_singleton.1 member, Utf8.toNat_ofNat (by omega)]
    omega
  induction digits with
  | single decimal => exact of_digit decimal
  | more _ decimal ih =>
    intro byte member
    exact (List.mem_append.1 member).elim (ih byte) (of_digit decimal byte)

/-- A number keeps to its line. -/
theorem Number.unbroken {bytes : Bytes} {value : Int64} (written : Number bytes value) :
    ¬ crlf <:+: bytes := by
  intro found
  -- A line break would be one of the bytes of the numeral.
  have member : (13 : UInt8) ∈ bytes := found.subset List.mem_cons_self
  -- Neither a sign nor a digit is a carriage return.
  cases written with
  | unsigned digits _ => exact absurd (digits.least _ member) (by decide)
  | positive digits _ =>
    rcases List.mem_cons.1 member with sign | later
    · exact absurd sign (by decide)
    · exact absurd (digits.least _ later) (by decide)
  | negative digits _ =>
    rcases List.mem_cons.1 member with sign | later
    · exact absurd sign (by decide)
    · exact absurd (digits.least _ later) (by decide)

end Frame

end RedisCluster
