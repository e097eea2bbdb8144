import Mathlib.Data.List.Induction
import RedisCluster.Text.Decimal

/-! Whole numbers written in decimal notation are read back as they were. -/

namespace RedisCluster.Decimal

/-- A digit lies between zero and nine. -/
theorem bounds_of_isDigit {c : Char} (digit : c.isDigit) : '0' ≤ c ∧ c ≤ '9' := by
  simpa [Char.isDigit, Char.le_def] using digit

/-- A digit has its distance from zero as its value. -/
theorem digit?_of_isDigit {c : Char} (digit : c.isDigit) : digit? c = some (c.toNat - '0'.toNat) := by
  simp [digit?, bounds_of_isDigit digit]

/-- Digits denote the number that their places make up. -/
theorem digitsFrom?_of_isDigit {text : List Char} (digits : ∀ c ∈ text, c.isDigit) (value : Nat) :
    digitsFrom? value text = some (Nat.ofDigitChars 10 text value) := by
  -- The value read so far is carried along, so the statement is about any value to start from.
  induction text generalizing value with
  | nil => rfl
  | cons c rest ih =>
    have first := digit?_of_isDigit (digits c (List.mem_cons_self ..))
    rw [digitsFrom?, first, Nat.ofDigitChars_cons, Nat.mul_comm 10 value]
    exact ih (fun d member => digits d (List.mem_cons_of_mem _ member)) _

/-- Every character of a written natural number is a digit. -/
theorem isDigit_of_mem {n : Nat} {c : Char} (member : c ∈ Nat.toDigits 10 n) : c.isDigit :=
  Nat.isDigit_of_mem_toDigits (by omega) (by omega) member

/-- The digits of a natural number denote it. -/
theorem digits?_toDigits (n : Nat) : digits? (Nat.toDigits 10 n) = some n := by
  cases whole : Nat.toDigits 10 n with
  -- Every number has a digit.
  | nil => exact absurd whole Nat.toDigits_ne_nil
  | cons c rest =>
    rw [digits?, ← whole, digitsFrom?_of_isDigit (fun _ => isDigit_of_mem) 0,
      Nat.ofDigitChars_ten_toDigits]

/-- A written natural number begins with a digit. -/
theorem toDigits_head (n : Nat) : ∃ c rest, Nat.toDigits 10 n = c :: rest ∧ c.isDigit := by
  cases whole : Nat.toDigits 10 n with
  | nil => exact absurd whole Nat.toDigits_ne_nil
  | cons c rest => exact ⟨c, rest, rfl, isDigit_of_mem (n := n) (by simp [whole])⟩

/-- A written natural number begins with no plus sign. -/
theorem unsigned?_toDigits (n : Nat) : unsigned? (Nat.toDigits 10 n) = some n := by
  have denoted := digits?_toDigits n
  obtain ⟨c, rest, whole, digit⟩ := toDigits_head n
  -- A sign is no digit.
  have notPlus : c ≠ '+' := by rintro rfl; exact absurd digit (by decide)
  rw [whole] at denoted ⊢
  simp [unsigned?, denoted, notPlus]

/-- A written natural number begins with no sign. -/
theorem signed?_toDigits (n : Nat) : signed? (Nat.toDigits 10 n) = some (n : Int) := by
  have denoted := unsigned?_toDigits n
  obtain ⟨c, rest, whole, digit⟩ := toDigits_head n
  -- What decides between the readings is the first character, and it is a digit.
  have notMinus : c ≠ '-' := by rintro rfl; exact absurd digit (by decide)
  rw [whole] at denoted ⊢
  simp [signed?, denoted, notMinus]

/-- The notation of a natural number within 16 bits is read as this number. -/
theorem uint16?_toString {n : Nat} (small : n < 65536) :
    uint16? (toString n).toList = some (UInt16.ofNat n) := by
  -- A natural number has no sign.
  have written : (toString n).toList = Nat.toDigits 10 n := by simp
  rw [uint16?, written, unsigned?_toDigits]
  exact if_pos small

/-- A natural number is written as its digits. -/
theorem toList_ofNat (n : Nat) : (toString (Int.ofNat n)).toList = Nat.toDigits 10 n := by
  simp [Int.toString_eq_repr, Int.repr, Nat.repr]

/-- A negative number is written as a minus sign and the digits of its amount. -/
theorem toList_negSucc (n : Nat) :
    (toString (Int.negSucc n)).toList = '-' :: Nat.toDigits 10 (n + 1) := by
  simp [Int.toString_eq_repr, Int.repr, Nat.repr]

/-- The notation of a whole number denotes it. -/
theorem signed?_toString (n : Int) : signed? (toString n).toList = some n := by
  cases n with
  | ofNat n => rw [toList_ofNat, signed?_toDigits]; rfl
  -- Behind the minus sign stand the digits of the amount.
  | negSucc n => rw [toList_negSucc, signed?, digits?_toDigits]; rfl

/-- The notation of a whole number within 64 bits is read as this number. -/
theorem int64?_toString {n : Int} (least : Int64.minValue.toInt ≤ n)
    (most : n ≤ Int64.maxValue.toInt) : int64? (toString n).toList = some (Int64.ofInt n) := by
  rw [int64?, signed?_toString]
  exact if_pos ⟨least, most⟩

/-- The notation of a whole number is made of digits and at most a minus sign. -/
theorem ascii_of_mem_toString {n : Int} {c : Char} (member : c ∈ (toString n).toList) :
    c.isDigit ∨ c = '-' := by
  cases n with
  | ofNat n =>
    -- Without a sign all characters are digits.
    rw [toList_ofNat] at member
    exact .inl (isDigit_of_mem member)
  | negSucc n =>
    -- The first character is the sign.
    rw [toList_negSucc, List.mem_cons] at member
    exact member.symm.imp isDigit_of_mem id

/-- A character is a digit exactly if it is that far from zero. -/
theorem digit?_eq_some_iff {c : Char} {d : Nat} :
    digit? c = some d ↔ d < 10 ∧ c.toNat = 48 + d := by
  have least : '0' ≤ c ↔ 48 ≤ c.toNat := Iff.rfl
  have most : c ≤ '9' ↔ c.toNat ≤ 57 := Iff.rfl
  have zero : '0'.toNat = 48 := rfl
  simp only [digit?, Bool.and_eq_true, decide_eq_true_eq, least, most, zero,
    Option.ite_none_right_eq_some, Option.some.injEq]
  omega

/-- Some digits denote what they denote behind a value of zero. -/
theorem digits?_eq {text : List Char} (some_digits : text ≠ []) :
    digits? text = digitsFrom? 0 text := by
  cases text with
  | nil => exact absurd rfl some_digits
  | cons c rest => rfl

/-- One digit more shifts the number by a place. -/
theorem digitsFrom?_concat (value : Nat) (text : List Char) (c : Char) :
    digitsFrom? value (text ++ [c]) =
      (digitsFrom? value text).bind fun front => (digit? c).map (front * 10 + ·) := by
  induction text generalizing value with
  -- The one digit is read behind the value.
  | nil => cases found : digit? c <;> simp [digitsFrom?, found]
  | cons first text ih =>
    cases found : digit? first with
    -- Without a first digit nothing is read.
    | none => simp [digitsFrom?, found]
    | some d => simpa [digitsFrom?, found] using ih (value * 10 + d)

/-- Only a digit can be read after a number. -/
theorem digitsFrom?_cons {value n : Nat} {c : Char} {digits : List Char} :
    digitsFrom? value (c :: digits) = some n ↔
      ∃ d, digit? c = some d ∧ digitsFrom? (value * 10 + d) digits = some n := by
  rw [digitsFrom?]
  cases digit? c <;> simp

/-- More digits make no number smaller. -/
theorem le_of_digitsFrom? {value n : Nat} {digits : List Char}
    (read : digitsFrom? value digits = some n) : value ≤ n := by
  induction digits generalizing value with
  | nil => exact Nat.le_of_eq (Option.some.inj read)
  | cons c digits ih =>
    -- The first digit has made the number no smaller.
    obtain ⟨d, -, others⟩ := digitsFrom?_cons.1 read
    have grown := ih others
    omega

/-- A digit is what its value is written as. -/
theorem eq_digitChar {c : Char} {d : Nat} (digit : digit? c = some d) : c = Nat.digitChar d := by
  obtain ⟨small, place⟩ := digit?_eq_some_iff.1 digit
  -- Both characters have the same number.
  rw [← Char.toNat_inj, place, Nat.toNat_digitChar_of_lt_ten small]

/-- No number but zero has a zero in front. -/
theorem head_toDigits_ne_zero {n : Nat} (positive : 0 < n) :
    (Nat.toDigits 10 n).head? ≠ some '0' := by
  -- The first digit is that of the number without its last one.
  induction n using Nat.strongRecOn with
  | ind n ih =>
    rw [Nat.toDigits_eq_if (by decide)]
    split
    -- A number of one digit is that digit.
    · simp only [List.head?_cons, ne_eq, Option.some.injEq, Nat.digitChar_eq_zero]
      omega
    · obtain ⟨c, rest, whole⟩ :=
        List.exists_cons_of_ne_nil (Nat.toDigits_ne_nil (n := n / 10) (b := 10))
      have first := ih (n / 10) (by omega) (by omega)
      rw [whole] at first ⊢
      exact first

/-- Digits without a needless zero in front are the notation of the number that they denote. -/
theorem eq_toDigits_of_digits {text : List Char} {n : Nat} (read : digits? text = some n)
    (shortest : text.head? = some '0' → text = ['0']) : text = Nat.toDigits 10 n := by
  -- The notation grows at its end, as the digits do.
  induction text using List.reverseRecOn generalizing n with
  | nil => cases read
  | append_singleton front c ih =>
    rw [digits?_eq (by simp), digitsFrom?_concat, Option.bind_eq_some_iff] at read
    obtain ⟨m, before, last⟩ := read
    obtain ⟨d, digit, rfl⟩ := Option.map_eq_some_iff.1 last
    obtain ⟨small, -⟩ := digit?_eq_some_iff.1 digit
    have written : [c] = Nat.toDigits 10 d := by
      rw [Nat.toDigits_of_lt_base small, eq_digitChar digit]
    cases front with
    | nil =>
      -- The one digit is the number.
      obtain rfl := Option.some.inj before
      simpa using written
    | cons first others =>
      have plain : first ≠ '0' := by
        rintro rfl
        exact absurd (shortest rfl) (by simp)
      have same := ih (by rw [digits?_eq (by simp), before]) (fun zero => by simp [plain] at zero)
      -- A number whose first digit is not zero is not zero.
      have positive : 0 < m := by
        rcases Nat.eq_zero_or_pos m with rfl | positive
        · rw [Nat.toDigits_zero] at same
          exact absurd (List.cons.inj same).1 plain
        · exact positive
      rw [same, written, Nat.toDigits_append_toDigits (by decide) positive small, Nat.mul_comm]

end RedisCluster.Decimal
