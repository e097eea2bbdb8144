import RedisCluster.Frame.Encode
import RedisCluster.Text.Decimal

/-! Reading frames from a stream of bytes that arrives in chunks of any size. -/

namespace RedisCluster

/-- Why bytes cannot be the front of any frame. -/
inductive DecodeError where
  | unknownType (byte : UInt8)
  | invalidInteger
  | invalidLength (length : Int)
  | invalidText
  | missingTerminator
  | frameTooLarge (size limit : Nat)
deriving Repr, DecidableEq

namespace DecodeError

/-- The text of a decoding error. -/
def message : DecodeError → String
  | unknownType byte => "unknown frame type byte 0x" ++ String.ofList (Hex.byte byte)
  | invalidInteger => "invalid integer in frame header"
  | invalidLength length => "invalid length " ++ toString length
  | invalidText => "frame line is not valid UTF-8"
  | missingTerminator => "missing CRLF after bulk payload"
  | frameTooLarge size limit =>
    "frame of " ++ toString size ++ " bytes exceeds limit of " ++ toString limit

end DecodeError

/-- What the front of some bytes amounts to. -/
inductive Parsed (α : Type) where
  | done (value : α) (rest : Bytes)
  | incomplete
  | failed (error : DecodeError)
deriving Repr

namespace Parsed

/-- Reads a value `count` times in a row. -/
def replicate {α : Type} (parse : Bytes → Parsed α) : Nat → Bytes → Parsed (List α)
  | 0, bytes => .done [] bytes
  | count + 1, bytes =>
    match parse bytes with
    | .incomplete => .incomplete
    | .failed fault => .failed fault
    | .done value rest =>
      match replicate parse count rest with
      | .incomplete => .incomplete
      | .failed fault => .failed fault
      | .done values after => .done (value :: values) after

end Parsed

/-- Splits bytes around the first line end. -/
def splitLine? : Bytes → Option (Bytes × Bytes)
  | [] => none
  | byte :: rest =>
    -- A carriage return alone is a part of the line.
    if byte = 13 ∧ rest.head? = some 10 then some ([], rest.tail)
    else (splitLine? rest).map fun found => (byte :: found.1, found.2)

namespace Frame

/-- The integer that a line denotes. -/
def readInteger (line : Bytes) : Except DecodeError Int64 :=
  match Decimal.int64? (line.map fun byte => Char.ofNat byte.toNat) with
  | some value => .ok value
  | none => .error .invalidInteger

/-- The text of a line. -/
def readText (line : Bytes) : Except DecodeError String :=
  match Utf8.decode? line with
  | some text => .ok text
  | none => .error .invalidText

/-- The length or count that a line announces; minus one announces a null. -/
def readLength (limit : Nat) (line : Bytes) : Except DecodeError (Option Nat) :=
  match readInteger line with
  | .error fault => .error fault
  | .ok value =>
    let length := value.toInt
    -- The mark of a null is no length.
    if length = -1 then .ok none
    else if length < 0 then .error (.invalidLength length)
    else if limit < length.toNat then .error (.frameTooLarge length.toNat limit)
    else .ok (some length.toNat)

/-- A payload of announced length with its line end. -/
def readPayload (length : Nat) (bytes : Bytes) : Parsed Bytes :=
  -- The line end has to be there before it is judged.
  if bytes.length < length + 2 then .incomplete
  else if (bytes.drop length).take 2 = crlf then
    .done (bytes.take length) (bytes.drop (length + 2))
  else .failed .missingTerminator

/-- Reads one frame whose arrays nest less deep than `depth`. -/
def parseWithin (limit : Nat) : Nat → Bytes → Parsed Frame
  | 0, _ => .incomplete
  | _, [] => .incomplete
  | depth + 1, marker :: body =>
    match splitLine? body with
    -- The marker is judged only once its whole line has arrived.
    | none => .incomplete
    | some (line, rest) =>
      match Char.ofNat marker.toNat with
      | '+' =>
        match readText line with
        | .error fault => .failed fault
        | .ok text => .done (.simple text) rest
      | '-' =>
        match readText line with
        | .error fault => .failed fault
        | .ok text => .done (.error text) rest
      | ':' =>
        match readInteger line with
        | .error fault => .failed fault
        | .ok value => .done (.integer value) rest
      | '$' =>
        match readLength limit line with
        | .error fault => .failed fault
        | .ok none => .done (.bulk none) rest
        | .ok (some length) =>
          match readPayload length rest with
          | .incomplete => .incomplete
          | .failed fault => .failed fault
          | .done payload after => .done (.bulk (some payload)) after
      | '*' =>
        match readLength limit line with
        | .error fault => .failed fault
        | .ok none => .done .null rest
        | .ok (some count) =>
          match Parsed.replicate (parseWithin limit depth) count rest with
          | .incomplete => .incomplete
          | .failed fault => .failed fault
          | .done items after => .done (.array items) after
      | _ => .failed (.unknownType marker)

/-- Reads one frame from the front of some bytes; each level of nesting takes bytes of its own. -/
def parse (limit : Nat) (bytes : Bytes) : Parsed Frame :=
  parseWithin limit bytes.length bytes

end Frame

/-- Holds received bytes until they make up whole frames. -/
structure Decoder where
  limit : Nat := 512 * 1024 * 1024
  buffer : Bytes := []

namespace Decoder

/-- Appends received bytes. -/
def append (decoder : Decoder) (chunk : Bytes) : Decoder :=
  { decoder with buffer := decoder.buffer ++ chunk }

/-- The number of bytes not yet decoded. -/
def buffered (decoder : Decoder) : Nat :=
  decoder.buffer.length

/-- Takes the next whole frame out of the buffer, or leaves the buffer as it is. -/
def decode (decoder : Decoder) : Except DecodeError (Option Frame) × Decoder :=
  match Frame.parse decoder.limit decoder.buffer with
  | .done frame rest => (.ok (some frame), { decoder with buffer := rest })
  | .failed error => (.error error, decoder)
  | .incomplete =>
    if decoder.buffer ≠ [] ∧ decoder.limit < decoder.buffered then
      (.error (.frameTooLarge decoder.buffered decoder.limit), decoder)
    else (.ok none, decoder)

/-- Only a buffer within the limit waits for more bytes. -/
theorem buffered_le_limit {decoder after : Decoder}
    (waits : decoder.decode = (.ok none, after)) : decoder.buffered ≤ decoder.limit := by
  unfold decode at waits
  split at waits
  · simp at waits
  · simp at waits
  · split at waits
    · simp at waits
    · rename_i small
      -- An empty buffer is within every limit.
      by_cases empty : decoder.buffer = []
      · simp [buffered, empty]
      · simp only [ne_eq, empty, not_false_eq_true, true_and, Nat.not_lt] at small
        exact small

/-- Takes whole frames out of the buffer until none is left or an error comes up. -/
def drain (decoder : Decoder) : List Frame × Option DecodeError × Decoder :=
  go decoder.buffered decoder
where
  /-- Every frame takes at least one byte, so the buffered length bounds the number of frames. -/
  go : Nat → Decoder → List Frame × Option DecodeError × Decoder
    | 0, decoder => ([], none, decoder)
    | bound + 1, decoder =>
      match decoder.decode with
      | (.error error, after) => ([], some error, after)
      | (.ok none, after) => ([], none, after)
      | (.ok (some frame), after) =>
        let (frames, error, last) := go bound after
        (frame :: frames, error, last)

end Decoder

end RedisCluster
