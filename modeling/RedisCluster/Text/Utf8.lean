/-! Byte strings and their reading as UTF-8, strict or with replacement of malformed parts. -/

namespace RedisCluster

/-- A byte string. -/
abbrev Bytes := List UInt8

namespace Utf8

/-- The bytes of a text. -/
def encode (text : String) : Bytes :=
  text.toList.flatMap String.utf8EncodeChar

/-- A character whose last `missing + 1` bytes are still to come, the next of them within bounds. -/
structure Unfinished where
  missing : Nat
  low : Nat
  high : Nat
  value : Nat

/-- What a byte that starts a character says about it. -/
inductive Lead where
  | ascii (c : Char)
  | opens (unfinished : Unfinished)
  | stray

/-- Reads the first byte of a character. -/
def lead (byte : UInt8) : Lead :=
  let n := byte.toNat
  if n < 0x80 then .ascii (Char.ofNat n)
  else if n < 0xC2 then .stray
  else if n < 0xE0 then .opens ⟨0, 0x80, 0xBF, n - 0xC0⟩
  -- Tighter bounds on the second byte shut out overlong forms and surrogates.
  else if n == 0xE0 then .opens ⟨1, 0xA0, 0xBF, 0⟩
  else if n == 0xED then .opens ⟨1, 0x80, 0x9F, 0xD⟩
  else if n < 0xF0 then .opens ⟨1, 0x80, 0xBF, n - 0xE0⟩
  else if n == 0xF0 then .opens ⟨2, 0x90, 0xBF, 0⟩
  else if n < 0xF4 then .opens ⟨2, 0x80, 0xBF, n - 0xF0⟩
  else if n == 0xF4 then .opens ⟨2, 0x80, 0x8F, 4⟩
  else .stray

/-- Starts a character: what is complete with this byte, and what it leaves unfinished. -/
def start (byte : UInt8) : List (Option Char) × Option Unfinished :=
  match lead byte with
  | .ascii c => ([some c], none)
  | .opens unfinished => ([], some unfinished)
  | .stray => ([none], none)

/-- Takes one more byte; a byte that does not continue the unfinished character starts another. -/
def push (state : Option Unfinished) (byte : UInt8) : List (Option Char) × Option Unfinished :=
  match state with
  | none => start byte
  | some u =>
    if u.low ≤ byte.toNat && byte.toNat ≤ u.high then
      let value := u.value * 64 + (byte.toNat - 0x80)
      match u.missing with
      | 0 => ([some (Char.ofNat value)], none)
      | missing + 1 => ([], some ⟨missing, 0x80, 0xBF, value⟩)
    else
      let (found, after) := start byte
      (none :: found, after)

/-- The characters of a byte string, with `none` for each maximal malformed part. -/
def scan : Option Unfinished → Bytes → List (Option Char)
  | none, [] => []
  | some _, [] => [none]
  | state, byte :: rest =>
    let (found, after) := push state byte
    found ++ scan after rest

/-- The text of well-formed UTF-8, and nothing for any other byte string. -/
def decode? (bytes : Bytes) : Option String :=
  ((scan none bytes).mapM id).map String.ofList

/-- The text of any byte string, each malformed part shown as one replacement character. -/
def lossy (bytes : Bytes) : String :=
  String.ofList ((scan none bytes).map (·.getD '\uFFFD'))

end Utf8

end RedisCluster
