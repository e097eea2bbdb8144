/-! Lengths of time. -/

namespace RedisCluster

/-- A length of time in nanoseconds. -/
structure Duration where
  nanoseconds : Nat
deriving DecidableEq, Repr

namespace Duration

/-- A number of whole seconds. -/
def ofSeconds (seconds : Nat) : Duration :=
  ⟨seconds * 1000000000⟩

/-- The whole milliseconds in a length of time. -/
def milliseconds (d : Duration) : Nat :=
  d.nanoseconds / 1000000

/-- A fraction `part / 10 ^ width` written after a point, without trailing zeros. -/
def fraction (part width : Nat) : List Char :=
  let digits := Nat.toDigits 10 part
  let padded := List.replicate (width - digits.length) '0' ++ digits
  let kept := (padded.reverse.dropWhile (· == '0')).reverse
  if part = 0 then [] else '.' :: kept

/-- A length of time in units of `10 ^ width` nanoseconds. -/
def inUnits (d : Duration) (width : Nat) (unit : String) : String :=
  String.ofList (Nat.toDigits 10 (d.nanoseconds / Nat.pow 10 width) ++
    fraction (d.nanoseconds % Nat.pow 10 width) width) ++ unit

/-- The text of a length of time in the largest unit that it fills at least once. -/
def text (d : Duration) : String :=
  if 1000000000 ≤ d.nanoseconds then d.inUnits 9 "s"
  else if 1000000 ≤ d.nanoseconds then d.inUnits 6 "ms"
  else if 1000 ≤ d.nanoseconds then d.inUnits 3 "µs"
  else d.inUnits 0 "ns"

end Duration

end RedisCluster
