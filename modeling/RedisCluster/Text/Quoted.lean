import RedisCluster.Text.Hex
import RedisCluster.Text.Hidden
import RedisCluster.Text.Utf8

/-! Text and bytes between quotes, as messages show them. -/

namespace RedisCluster.Quoted

/-- A character inside quotes: short escapes for the common controls, numbers for hidden ones. -/
def char (c : Char) : List Char :=
  match c with
  | '\x00' => ['\\', '0']
  | '\t' => ['\\', 't']
  | '\n' => ['\\', 'n']
  | '\r' => ['\\', 'r']
  | '"' => ['\\', '"']
  | '\\' => ['\\', '\\']
  | c => if isHidden c then "\\u\x7b".toList ++ Hex.number c.toNat ++ ['}'] else [c]

/-- A text between quotes. -/
def text (s : String) : String :=
  String.ofList ('"' :: s.toList.flatMap char ++ ['"'])

/-- A byte inside quotes: printable ASCII as itself, the rest by short escapes or two digits. -/
def byte (b : UInt8) : List Char :=
  match Char.ofNat b.toNat with
  | '\x00' => ['\\', '0']
  | '\t' => ['\\', 't']
  | '\n' => ['\\', 'n']
  | '\r' => ['\\', 'r']
  | '"' => ['\\', '"']
  | '\\' => ['\\', '\\']
  | c => if 0x20 ≤ b.toNat && b.toNat < 0x7F then [c] else '\\' :: 'x' :: Hex.byte b

/-- A byte string between quotes, marked with a `b`. -/
def bytes (s : Bytes) : String :=
  String.ofList ('b' :: '"' :: s.flatMap byte ++ ['"'])

end RedisCluster.Quoted
