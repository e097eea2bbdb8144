import RedisCluster.Frame.Decode

/-! Reading frames at a place in a buffer, where every sum has to be a machine word, every slice has to
lie in the buffer, and the calls are counted. -/

namespace RedisCluster

/-- Why a program stops that computes with machine words. -/
inductive Fault where
  | overflow
  | outOfRange
deriving Repr, DecidableEq

/-- What reading from a place on comes to, and how many frames were begun for it. A value ends at a
place that is not before the first. -/
inductive Reading (α : Type) (place : Nat) where
  | stopped (fault : Fault)
  | done (calls : Nat) (value : α) (next : Nat) (ahead : place ≤ next)
  | incomplete (calls : Nat)
  | failed (calls : Nat) (error : DecodeError)
deriving Repr

namespace Reading

variable {α β : Type} {place : Nat}

/-- A value that takes no bytes. -/
def here (value : α) : Reading α place :=
  .done 0 value place (Nat.le_refl place)

/-- What comes after some calls. -/
def after (calls : Nat) : Reading α place → Reading α place
  | stopped fault => stopped fault
  | done more value next ahead => done (calls + more) value next ahead
  | incomplete more => incomplete (calls + more)
  | failed more error => failed (calls + more) error

/-- What was read from a later place on. -/
def since {later : Nat} (ahead : place ≤ later) : Reading α later → Reading α place
  | stopped fault => stopped fault
  | done calls value next onward => done calls value next (Nat.le_trans ahead onward)
  | incomplete calls => incomplete calls
  | failed calls error => failed calls error

/-- Goes on with a sum or a slice, if it is one. -/
def check {γ : Type} (checked : Except Fault γ) (onward : γ → Reading α place) : Reading α place :=
  match checked with
  | .error fault => stopped fault
  | .ok value => onward value

/-- Reads on behind a value. -/
def andThen (first : Reading α place)
    (second : (value : α) → (next : Nat) → place ≤ next → Reading β next) : Reading β place :=
  match first with
  | stopped fault => stopped fault
  -- The calls of the second reading come on top of those of the first.
  | done calls value next ahead => ((second value next ahead).since ahead).after calls
  | incomplete calls => incomplete calls
  | failed calls error => failed calls error

end Reading

namespace Cursor

/-- The sum of two machine words, which has to be one. -/
def add (left right : Nat) : Except Fault { sum : Nat // sum = left + right } :=
  if left + right < UInt64.size then .ok ⟨left + right, rfl⟩ else .error .overflow

/-- The bytes from one place to another, which have to be in order and in the buffer. -/
def slice (buffer : Bytes) (start stop : Nat) : Except Fault Bytes :=
  if start ≤ stop ∧ stop ≤ buffer.length then .ok ((buffer.drop start).take (stop - start))
  else .error .outOfRange

/-- How far away the first line end is. -/
def lineEnd? : Bytes → Option Nat
  | [] => none
  | byte :: rest =>
    if byte = 13 ∧ rest.head? = some 10 then some 0 else (lineEnd? rest).map (· + 1)

/-- Reads the line that begins at a place, and its line end. -/
def lineAt (buffer : Bytes) (start : Nat) : Reading Bytes start :=
  -- A line cannot begin behind the buffer.
  if buffer.length < start then .incomplete 0
  else
    (lineEnd? (buffer.drop start)).elim (.incomplete 0) fun length =>
    .check (slice (buffer.drop start) 0 length) fun content =>
    .check (add start length) fun stop =>
    .check (add stop 2) fun next =>
    .done 0 content next (by have := stop.2; have := next.2; omega)

/-- Reads the payload that begins at a place, and its line end. -/
def payloadAt (buffer : Bytes) (length start : Nat) : Reading Bytes start :=
  .check (add start length) fun stop =>
  .check (add stop 2) fun next =>
  -- The two bytes of the line end have to be there, too.
  if buffer.length < next then .incomplete 0
  else
    .check (slice buffer stop next) fun ending =>
    if ending ≠ crlf then .failed 0 .missingTerminator
    else
      .check (slice buffer start stop) fun payload =>
      .done 0 payload next (by have := stop.2; have := next.2; omega)

end Cursor

namespace Frame

/-- What the first line of a frame says: the whole frame, or what there is behind the line. -/
inductive Head where
  | whole (frame : Frame)
  | payload (length : Nat)
  | items (count : Nat)
deriving Repr

/-- Reads the first line of a frame. -/
def readHead (limit : Nat) (marker : UInt8) (line : Bytes) : Except DecodeError Head :=
  match Char.ofNat marker.toNat with
  | '+' => (readText line).map fun text => .whole (.simple text)
  | '-' => (readText line).map fun text => .whole (.error text)
  | ':' => (readInteger line).map fun value => .whole (.integer value)
  | '$' => (readLength limit line).map fun length => length.elim (.whole (.bulk none)) .payload
  | '*' => (readLength limit line).map fun count => count.elim (.whole .null) .items
  | _ => .error (.unknownType marker)

end Frame

namespace Cursor

mutual

/-- Reads the frame that begins at a place. The items of an array begin behind its marker, and no frame
ends before it begins, so reading ends however many items are announced. -/
def frameAt (limit : Nat) (buffer : Bytes) (place : Nat) : Reading Frame place :=
  -- To begin with a frame is a call, whatever comes of it.
  .after 1 <|
  if inside : place < buffer.length then
    .check (add place 1) fun start =>
    .since (by have := start.2; omega) <|
    (lineAt buffer start).andThen fun line next _ahead =>
    match Frame.readHead limit buffer[place] line with
    | .error error => .failed 0 error
    | .ok (.whole frame) => .here frame
    | .ok (.payload length) =>
      (payloadAt buffer length next).andThen fun payload _ _ => .here (.bulk (some payload))
    | .ok (.items count) =>
      (framesAt limit buffer count next).andThen fun items _ _ => .here (.array items)
  else .incomplete 0
termination_by (buffer.length - place, 0)
decreasing_by
  -- The items begin behind the marker.
  have := start.2
  exact Prod.Lex.left _ _ (by omega)

/-- Reads a number of frames in a row, the first of which begins at a place. -/
def framesAt (limit : Nat) (buffer : Bytes) (count place : Nat) : Reading (List Frame) place :=
  match count with
  -- Of no frames there is nothing to read.
  | 0 => .here []
  | count + 1 =>
    (frameAt limit buffer place).andThen fun item next _ahead =>
    (framesAt limit buffer count next).andThen fun items _ _ => .here (item :: items)
termination_by (buffer.length - place, count + 1)
decreasing_by
  · exact Prod.Lex.right _ (Nat.succ_pos _)
  -- The others begin no earlier, and there is one less of them.
  · exact Prod.Lex.right' _ (by omega) (Nat.lt_succ_self _)

end

end Cursor

end RedisCluster
