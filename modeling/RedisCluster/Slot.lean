import RedisCluster.ClientError

/-! Hash slots: which of the slots a key belongs to. -/

namespace RedisCluster

/-- The number of hash slots of a cluster. -/
def slotCount : Nat :=
  16384

namespace Crc16

/-- Shifts the checksum by one bit, reducing by the polynomial `x^16 + x^12 + x^5 + 1`. -/
def shift (crc : UInt16) : UInt16 :=
  if crc &&& 0x8000 = 0 then crc <<< 1 else (crc <<< 1) ^^^ 0x1021

/-- Takes one byte into the checksum, its highest bit first. -/
def push (crc : UInt16) (byte : UInt8) : UInt16 :=
  let mixed := crc ^^^ (byte.toUInt16 <<< 8)
  shift (shift (shift (shift (shift (shift (shift (shift mixed)))))))

/-- The checksum of a byte string, known as CRC16/XMODEM. -/
def checksum (bytes : Bytes) : UInt16 :=
  bytes.foldl push 0

end Crc16

/-- The bytes between the first opening brace and the closing brace after it, if there are any. -/
def hashTag? (key : Bytes) : Option Bytes :=
  match key.dropWhile (· ≠ 123) with
  | [] => none
  | _ :: inner =>
    let tag := inner.takeWhile (· ≠ 125)
    -- A tag counts only when its brace is closed and something stands inside.
    if tag = [] ∨ tag.length = inner.length then none else some tag

/-- The slot of a key: the checksum of its hash tag, or of the whole key without one. -/
def keySlot (key : Bytes) : Nat :=
  (Crc16.checksum ((hashTag? key).getD key)).toNat % slotCount

/-- Checks that keys lie in a given slot. -/
def allInSlot (slot : Nat) : List Bytes → Except ClientError Unit
  | [] => .ok ()
  | key :: rest =>
    if keySlot key = slot then allInSlot slot rest
    else .error (.crossSlot slot (keySlot key))

/-- The one slot of several keys; without keys there is none. -/
def slotForKeys : List Bytes → Except ClientError (Option Nat)
  | [] => .ok none
  | key :: rest =>
    match allInSlot (keySlot key) rest with
    | .error error => .error error
    | .ok () => .ok (some (keySlot key))

end RedisCluster
