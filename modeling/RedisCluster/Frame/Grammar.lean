import RedisCluster.Frame.Encode

/-! The grammar of the serialization protocol: which bytes stand for which frame. -/

namespace RedisCluster.Frame

/-- One or more decimal digits and the number that they denote. -/
inductive Digits : Bytes → Nat → Prop where
  | single {digit : Nat} (decimal : digit < 10) : Digits [UInt8.ofNat (48 + digit)] digit
  | more {front : Bytes} {value digit : Nat} (digits : Digits front value) (decimal : digit < 10) :
      Digits (front ++ [UInt8.ofNat (48 + digit)]) (value * 10 + digit)

/-- An optional sign and digits, and the number of 64 bits that they denote. -/
inductive Number : Bytes → Int64 → Prop where
  | unsigned {bytes : Bytes} {amount : Nat} {value : Int64} (digits : Digits bytes amount)
      (denoted : value.toInt = amount) : Number bytes value
  | positive {bytes : Bytes} {amount : Nat} {value : Int64} (digits : Digits bytes amount)
      (denoted : value.toInt = amount) : Number (43 :: bytes) value
  | negative {bytes : Bytes} {amount : Nat} {value : Int64} (digits : Digits bytes amount)
      (denoted : value.toInt = -amount) : Number (45 :: bytes) value

mutual

/-- Bytes are a derivation of a frame. Lengths and counts are within a limit; a length or a count of
minus one stands for the null of its kind. -/
inductive Derives (limit : Nat) : Frame → Bytes → Prop where
  | simple {text : String} (unbroken : ¬ crlf <:+: Utf8.encode text) :
      Derives limit (.simple text) (line '+' (Utf8.encode text))
  | error {text : String} (unbroken : ¬ crlf <:+: Utf8.encode text) :
      Derives limit (.error text) (line '-' (Utf8.encode text))
  | integer {number : Bytes} {value : Int64} (written : Number number value) :
      Derives limit (.integer value) (line ':' number)
  | bulk {number payload : Bytes} {length : Int64} (written : Number number length)
      (exact_length : length.toInt = payload.length) (allowed : payload.length ≤ limit) :
      Derives limit (.bulk (some payload)) (line '$' number ++ (payload ++ crlf))
  | nullBulk {number : Bytes} (written : Number number (-1)) :
      Derives limit (.bulk none) (line '$' number)
  | array {number body : Bytes} {count : Int64} {items : List Frame} (written : Number number count)
      (exact_count : count.toInt = items.length) (allowed : items.length ≤ limit)
      (row : DerivesAll limit items body) : Derives limit (.array items) (line '*' number ++ body)
  | null {number : Bytes} (written : Number number (-1)) : Derives limit .null (line '*' number)

/-- Bytes are derivations of some frames in a row. -/
inductive DerivesAll (limit : Nat) : List Frame → Bytes → Prop where
  | nil : DerivesAll limit [] []
  | cons {item : Frame} {rest : List Frame} {front back : Bytes} (first : Derives limit item front)
      (others : DerivesAll limit rest back) : DerivesAll limit (item :: rest) (front ++ back)

end

end RedisCluster.Frame
