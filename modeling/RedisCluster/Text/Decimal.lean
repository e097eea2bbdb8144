/-! Reading whole numbers in decimal notation. -/

namespace RedisCluster.Decimal

/-- The value of a decimal digit. -/
def digit? (c : Char) : Option Nat :=
  if '0' ≤ c && c ≤ '9' then some (c.toNat - '0'.toNat) else none

/-- The number that some digits denote when written after `value`. -/
def digitsFrom? (value : Nat) : List Char → Option Nat
  | [] => some value
  | c :: rest =>
    match digit? c with
    | none => none
    | some d => digitsFrom? (value * 10 + d) rest

/-- One or more digits; leading zeros are allowed. -/
def digits? : List Char → Option Nat
  | [] => none
  | c :: rest => digitsFrom? 0 (c :: rest)

/-- Digits that may follow a plus sign. -/
def unsigned? : List Char → Option Nat
  | '+' :: rest => digits? rest
  | text => digits? text

/-- Digits that may follow a sign. -/
def signed? : List Char → Option Int
  | '-' :: rest => (digits? rest).map fun n => -(n : Int)
  | text => (unsigned? text).map Int.ofNat

/-- A signed number that fits in 64 bits. -/
def int64? (text : List Char) : Option Int64 :=
  match signed? text with
  | none => none
  | some n =>
    if Int64.minValue.toInt ≤ n ∧ n ≤ Int64.maxValue.toInt then some (Int64.ofInt n) else none

/-- An unsigned number that fits in 16 bits. -/
def uint16? (text : List Char) : Option UInt16 :=
  match unsigned? text with
  | none => none
  | some n => if n < 65536 then some (UInt16.ofNat n) else none

end RedisCluster.Decimal
