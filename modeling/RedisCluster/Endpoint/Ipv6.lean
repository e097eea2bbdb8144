import RedisCluster.Text.Blank
import RedisCluster.Text.Decimal
import RedisCluster.Text.Hex

/-! IPv6 addresses: eight groups of sixteen bits, and their shortest text. -/

namespace RedisCluster.Ipv6

/-- The number that some hexadecimal digits denote. -/
def hexValue (digits : List Char) : Nat :=
  digits.foldl (fun value c => value * 16 + (Hex.digit? c).getD 0) 0

/-- A decimal number below 256 without leading zeros. -/
def octet? (text : List Char) : Option Nat :=
  match text with
  | '0' :: _ :: _ => none
  | text =>
    match Decimal.digits? text with
    | none => none
    | some n => if n < 256 then some n else none

/-- The two groups that four dotted octets stand for. -/
def dotted? (text : List Char) : Option (List Nat) :=
  match (pieces (· == '.') text).mapM octet? with
  | some [a, b, c, d] => some [a * 256 + b, c * 256 + d]
  | _ => none

/-- Reads groups after those already `found`; `gap` is where a double colon stands, and every
step fills one group, for which there must be `room`. -/
def groups? : Nat → List Nat → Option Nat → List Char → Option (List Nat × Option Nat)
  | _, found, gap, [] => some (found, gap)
  | 0, _, _, _ => none
  | room + 1, found, gap, c :: rest =>
    if c = ':' then
      -- A double colon stands for at least one group of zeros.
      match gap with
      | some _ => none
      | none => groups? room (found ++ [0]) (some (found.length + 1)) rest
    else
      let digits := ((c :: rest).take 4).takeWhile fun d => (Hex.digit? d).isSome
      match (c :: rest).drop digits.length with
      | [] => some (found ++ [hexValue digits], gap)
      | ':' :: [] => none
      | ':' :: after => groups? room (found ++ [hexValue digits]) gap after
      | '.' :: _ =>
        if digits = [] ∨ room = 0 then none
        else (dotted? (c :: rest)).map fun low => (found ++ low, gap)
      | _ => none

/-- The eight groups of an address. -/
def parse? (text : List Char) : Option (List Nat) :=
  let found :=
    match text with
    | first :: second :: rest =>
      if first ≠ ':' then groups? 8 [] none text
      else if second = ':' then groups? 7 [0] (some 1) rest
      else none
    | _ => none
  match found with
  | none => none
  | some (groups, none) => if groups.length = 8 then some groups else none
  | some (groups, some gap) =>
    some (groups.take gap ++ List.replicate (8 - groups.length) 0 ++ groups.drop gap)

/-- The length of the run of zeros at the front. -/
def zeros (groups : List Nat) : Nat :=
  (groups.takeWhile (· == 0)).length

/-- Start and length of the first longest run of zeros, looking from position `start` on. -/
def longestZeros : Nat → List Nat → Nat × Nat
  | _, [] => (0, 0)
  | start, group :: rest =>
    let here := zeros (group :: rest)
    let later := longestZeros (start + 1) rest
    if later.2 ≤ here then (start, here) else later

/-- Groups in hexadecimal with colons between them. -/
def colonSeparated (groups : List Nat) : String :=
  ":".intercalate (groups.map fun group => String.ofList (Hex.number group))

/-- Two groups as four dotted octets. -/
def dotted (high low : Nat) : String :=
  ".".intercalate ([high / 256, high % 256, low / 256, low % 256].map toString)

/-- The text of an address: the longest run of two or more zero groups becomes a double colon, and
an embedded IPv4 address keeps its dots. -/
def text (groups : List Nat) : String :=
  match groups with
  | [0, 0, 0, 0, 0, 0xFFFF, high, low] => "::ffff:" ++ dotted high low
  | _ =>
    let (start, length) := longestZeros 0 groups
    if 1 < length then
      colonSeparated (groups.take start) ++ "::" ++ colonSeparated (groups.drop (start + length))
    else colonSeparated groups

end RedisCluster.Ipv6
