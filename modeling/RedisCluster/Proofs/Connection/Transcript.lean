import RedisCluster.Proofs.Connection.Reading
import RedisCluster.Proofs.Connection.Writing

/-! What a connection does on its stream, call by call: which reads and writes a request makes until
it has its reply, and which of them leave it without one. -/

namespace RedisCluster

variable {σ : Type}

/-- A call on a stream, with what it brought. -/
inductive StreamCall where
  | read (event : ReadEvent)
  | write (bytes : Bytes) (event : WriteEvent)
deriving Repr

/-- The bytes that a call brings into the buffer. -/
def StreamCall.arrived : StreamCall → Bytes
  | read event => event.bytes
  | write .. => []

/-- A stream that takes note of every call that is made on it. -/
def Stream.noted (stream : Stream σ) : Stream (σ × List StreamCall) where
  read state :=
    let (event, after) := stream.read state.1
    (event, after, state.2 ++ [.read event])
  write bytes state :=
    let (event, after) := stream.write bytes state.1
    (event, after, state.2 ++ [.write bytes event])

namespace Connection

/-- A connection whose stream has noted some calls already. -/
def noting (connection : Connection σ) (noted : List StreamCall) :
    Connection (σ × List StreamCall) :=
  { connection with stream := (connection.stream, noted) }

/-- An operation that runs over any stream makes exactly these calls: where calls are noted it does
what it does elsewhere, and these are added to what has been noted. -/
def Makes {α : Type} (operation : (τ : Type) → Stream τ → Connection τ → α × Connection τ)
    (stream : Stream σ) (connection : Connection σ) (calls : List StreamCall) : Prop :=
  ∀ noted, operation _ stream.noted (connection.noting noted) =
    ((operation _ stream connection).1, (operation _ stream connection).2.noting (noted ++ calls))

/-- The halt that a call leads to, if it does: nothing ever comes of it, it fails, the stream takes
none of the bytes, or it brings none because it has ended. -/
def haltOf? (connection : Connection σ) : StreamCall → Option Halt
  -- Nothing comes of it ever, so the time limit decides.
  | .read .stall => some (.ofStall "read" connection.readTimeout)
  | .write _ .stall => some (.ofStall "write" connection.writeTimeout)
  -- The stream has failed of itself.
  | .read (.failure message) | .write _ (.failure message) => some (.failed (.io message))
  -- A read without bytes is the end of the stream.
  | .read (.data []) => some (.failed (.io "connection closed by peer"))
  -- Bytes that are left cannot be taken by a stream that takes none of them.
  | .write _ (.accepts 0) => some (.failed (.io "write zero"))
  | .read (.data (_ :: _)) | .write _ (.accepts (_ + 1)) => none

/-- None of some calls leads to a halt. -/
def Calm (connection : Connection σ) (calls : List StreamCall) : Prop :=
  ∀ call ∈ calls, connection.haltOf? call = none

/-- The last of some calls leads to a halt, and none before it does. -/
def Halts (connection : Connection σ) (calls : List StreamCall) (halt : Halt) : Prop :=
  ∃ earlier last, calls = earlier ++ [last] ∧ connection.Calm earlier ∧
    connection.haltOf? last = some halt

section Calls

variable {connection : Connection σ} {call : StreamCall} {calls more : List StreamCall} {halt : Halt}

/-- A calm call in front of calm ones leaves them calm. -/
theorem Calm.cons (first : connection.haltOf? call = none) (calm : connection.Calm calls) :
    connection.Calm (call :: calls) :=
  List.forall_mem_cons.2 ⟨first, calm⟩

/-- Calm calls in a row are calm. -/
theorem Calm.append (calm : connection.Calm calls) (others : connection.Calm more) :
    connection.Calm (calls ++ more) :=
  List.forall_mem_append.2 ⟨calm, others⟩

/-- A single call may halt. -/
theorem Halts.single (halts : connection.haltOf? call = some halt) : connection.Halts [call] halt :=
  ⟨[], call, rfl, List.forall_mem_nil _, halts⟩

/-- Calls that end with a halt do so behind calm ones. -/
theorem Halts.behind (calm : connection.Calm calls) (halts : connection.Halts more halt) :
    connection.Halts (calls ++ more) halt := by
  -- What comes earlier was calm, and the last call is still the last.
  obtain ⟨earlier, last, rfl, before, halted⟩ := halts
  exact ⟨calls ++ earlier, last, (List.append_assoc ..).symm, calm.append before, halted⟩

/-- Whether some calls get through: they do if they are calm, and otherwise the last one halts. -/
def Passes (connection : Connection σ) (calls : List StreamCall) : Except Halt Unit → Prop
  | .ok () => connection.Calm calls
  | .error halt => connection.Halts calls halt

/-- A calm call in front changes nothing about whether others get through. -/
theorem Passes.cons {result : Except Halt Unit} (first : connection.haltOf? call = none)
    (passes : connection.Passes calls result) : connection.Passes (call :: calls) result := by
  -- A calm call joins those before the halt, if there is one.
  cases result with
  | ok => exact Calm.cons first passes
  | error halt => exact Halts.behind (List.forall_mem_singleton.2 first) passes

end Calls

variable {stream : Stream σ} {connection : Connection σ}

/-- A write brings the same where it is noted. -/
theorem noted_write {bytes : Bytes} {event : WriteEvent} {after : σ} {noted : List StreamCall}
    (wrote : stream.write bytes connection.stream = (event, after)) :
    stream.noted.write bytes (connection.noting noted).stream =
      (event, after, noted ++ [.write bytes event]) := by
  simp only [Stream.noted, noting, wrote]

/-- A read brings the same where it is noted. -/
theorem noted_read {event : ReadEvent} {after : σ} {noted : List StreamCall}
    (brought : stream.read connection.stream = (event, after)) :
    stream.noted.read (connection.noting noted).stream = (event, after, noted ++ [.read event]) := by
  simp only [Stream.noted, noting, brought]

/-- What the writes of some bytes offer to the stream: all of them first, and then only such as come
last among them. -/
structure Offers (bytes : Bytes) (calls : List StreamCall) : Prop where
  starts : bytes ≠ [] → ∃ event later, calls = .write bytes event :: later
  own : ∀ call ∈ calls, ∃ rest event, call = .write rest event ∧ rest ≠ [] ∧ rest <:+ bytes

/-- A write that is the only one offers everything. -/
theorem Offers.single {bytes : Bytes} (some_bytes : bytes ≠ []) (event : WriteEvent) :
    Offers bytes [.write bytes event] :=
  ⟨fun _ => ⟨event, [], rfl⟩, fun _ member =>
    ⟨bytes, event, List.mem_singleton.1 member, some_bytes, List.suffix_refl bytes⟩⟩

/-- A write of all the bytes stands in front of those that offer a rest of them. -/
theorem Offers.cons {bytes rest : Bytes} {calls : List StreamCall} (some_bytes : bytes ≠ [])
    (event : WriteEvent) (behind : rest <:+ bytes) (offers : Offers rest calls) :
    Offers bytes (.write bytes event :: calls) where
  starts _ := ⟨event, calls, rfl⟩
  own := List.forall_mem_cons.2 ⟨⟨bytes, event, rfl, some_bytes, List.suffix_refl bytes⟩,
    -- Those behind offer a rest of a rest.
    fun call member => by
      obtain ⟨part, event, same, some_part, inside⟩ := offers.own call member
      exact ⟨part, event, same, some_part, inside.trans behind⟩⟩

/-- A write that halts ends the work. -/
theorem writeAll_of_halt {bytes : Bytes} {event : WriteEvent} {after : σ} {halt : Halt}
    (some_bytes : bytes ≠ []) (wrote : stream.write bytes connection.stream = (event, after))
    (halts : connection.haltOf? (.write bytes event) = some halt) :
    connection.writeAll stream bytes = (.error halt, { connection with stream := after }) := by
  rw [writeAll, if_neg (fun empty => some_bytes (List.isEmpty_iff.1 empty))]
  simp only [wrote]
  -- There are three ways to halt, and each has the halt of its own call.
  match event with
  | .stall | .failure _ | .accepts 0 => cases halts; rfl
  | .accepts (_ + 1) => cases halts

/-- Writing some bytes makes only writes, which are calm if the bytes get through, and of which the
last one halts otherwise. -/
theorem writeAll_makes (stream : Stream σ) (connection : Connection σ) (bytes : Bytes) :
    ∃ calls,
      Makes (fun _ stream connection => connection.writeAll stream bytes) stream connection calls ∧
      Offers bytes calls ∧ connection.Passes calls (connection.writeAll stream bytes).1 := by
  -- Nothing is left, the stream stalls, fails or takes nothing, or it takes a part.
  simp only [Makes]
  fun_induction writeAll stream connection bytes with
  | case1 connection bytes empty =>
    obtain rfl := List.isEmpty_iff.1 empty
    refine ⟨[], fun noted => ?_, ⟨fun none => absurd rfl none, List.forall_mem_nil _⟩,
      List.forall_mem_nil _⟩
    rw [writeAll_nil, List.append_nil]
  | case2 connection bytes some_bytes after _ wrote
  | case3 connection bytes some_bytes after _ _ wrote
  | case4 connection bytes some_bytes after _ wrote =>
    have some_bytes : bytes ≠ [] := by simpa using some_bytes
    exact ⟨_, fun noted => writeAll_of_halt some_bytes (noted_write wrote) rfl,
      .single some_bytes _, .single rfl⟩
  -- The stream has taken some of the bytes, so the rest is written as it would be alone.
  | case5 connection bytes some_bytes after _ count wrote ih =>
    have some_bytes : bytes ≠ [] := by simpa using some_bytes
    obtain ⟨calls, makes, offers, passes⟩ := ih
    refine ⟨.write bytes (.accepts (count + 1)) :: calls, fun noted => ?_,
      offers.cons some_bytes _ (List.drop_suffix ..), passes.cons rfl⟩
    rw [writeAll_of_accepts some_bytes (noted_write wrote), List.append_cons noted _ calls]
    exact makes _

/-- A read that halts, where more has to be read, ends the work. -/
theorem readFrame_of_halt {event : ReadEvent} {after : σ} {halt : Halt}
    (waits : connection.decoder.decode = (.ok none, connection.decoder))
    (brought : stream.read connection.stream = (event, after))
    (halts : connection.haltOf? (.read event) = some halt) :
    connection.readFrame stream = (.error halt, { connection with stream := after }) := by
  rw [readFrame, waits]
  simp only [brought]
  -- Reads halt in three ways as well, and only bytes lead on.
  match event with
  | .stall | .failure _ | .data [] => cases halts; rfl
  | .data (_ :: _) => cases halts

/-- The decoder behind some calls, with all the bytes that they have brought. -/
def received (connection : Connection σ) (calls : List StreamCall) : Decoder :=
  connection.decoder.append (calls.flatMap StreamCall.arrived)

/-- Without calls nothing is brought. -/
theorem received_nil (connection : Connection σ) : connection.received [] = connection.decoder := by
  rw [received, List.flatMap_nil, Decoder.append, List.append_nil]

/-- What some calls bring a request to: the reply that stands at the front of all the bytes that have
arrived, the error of these bytes, or the halt that the last call leads to. -/
inductive Answers (connection : Connection σ) (calls : List StreamCall) : Except Halt Frame → Prop
  | reply {frame : Frame} (calm : connection.Calm calls)
      (taken : (connection.received calls).decode.1 = .ok (some frame)) :
      Answers connection calls (.ok frame)
  | malformed {fault : DecodeError} (calm : connection.Calm calls)
      (judged : (connection.received calls).decode.1 = .error fault) :
      Answers connection calls (.error (.failed (.decode fault)))
  | halted {halt : Halt} (halts : connection.Halts calls halt) :
      Answers connection calls (.error halt)

/-- Calm calls in front that bring some bytes bring them in front of those of the others. -/
theorem Answers.behind {front calls : List StreamCall} {answer : Except Halt Frame}
    {middle : Connection σ} (answers : middle.Answers calls answer) (calm : connection.Calm front)
    (limits : middle.haltOf? = connection.haltOf?)
    (decoder : middle.decoder = connection.received front) :
    connection.Answers (front ++ calls) answer := by
  -- The bytes of the calls in front are in the buffer already when the others are made.
  have joined : middle.received calls = connection.received (front ++ calls) := by
    simp only [received, decoder, Decoder.append, List.flatMap_append, List.append_assoc]
  have still : middle.Calm calls → connection.Calm (front ++ calls) := fun others =>
    calm.append fun call member => limits ▸ others call member
  cases answers with
  | reply others taken => exact .reply (still others) (joined ▸ taken)
  | malformed others judged => exact .malformed (still others) (joined ▸ judged)
  | halted halts =>
    -- The calls behind lead to a halt under the same time limits.
    unfold Halts Calm at halts
    rw [limits] at halts
    exact .halted (.behind calm halts)

/-- Reading a frame makes only reads, and they bring it to its answer. -/
theorem readFrame_makes (stream : Stream σ) (connection : Connection σ) :
    ∃ calls, Makes (fun _ stream connection => connection.readFrame stream) stream connection calls ∧
      (∀ call ∈ calls, ∃ event, call = .read event) ∧
      connection.Answers calls (connection.readFrame stream).1 := by
  -- The buffer is no frame or has one, or the stream stalls, fails, ends or brings more.
  simp only [Makes]
  fun_induction readFrame stream connection with
  | case1 connection fault after judged =>
    refine ⟨[], fun noted => ?_, List.forall_mem_nil _, .malformed (List.forall_mem_nil _) ?_⟩
    · have there : (connection.noting noted).readFrame stream.noted = _ := readFrame_of_judged judged
      rw [there, List.append_nil]
      rfl
    · rw [received_nil, judged]
  | case2 connection frame after taken =>
    refine ⟨[], fun noted => ?_, List.forall_mem_nil _, .reply (List.forall_mem_nil _) ?_⟩
    · have there : (connection.noting noted).readFrame stream.noted = _ := readFrame_of_taken taken
      rw [there, List.append_nil]
      rfl
    · rw [received_nil, taken]
  | case3 connection _ waits after brought
  | case4 connection _ waits after _ brought
  | case5 connection _ waits after brought =>
    obtain rfl := Decoder.eq_of_decode waits (by simp)
    exact ⟨_, fun noted => readFrame_of_halt waits (noted_read brought) rfl,
      List.forall_mem_singleton.2 ⟨_, rfl⟩, .halted (.single rfl)⟩
  | case6 connection _ waits after byte bytes brought ih =>
    -- While the decoder waits it keeps what it has, so the buffer is the one from before.
    obtain rfl := Decoder.eq_of_decode waits (by simp)
    obtain ⟨calls, makes, reads, answers⟩ := ih
    have calm : connection.Calm [.read (.data (byte :: bytes))] := List.forall_mem_singleton.2 rfl
    -- The one call so far has brought just these bytes.
    have arrived : connection.received [.read (.data (byte :: bytes))] =
        connection.decoder.append (byte :: bytes) := by
      rw [received, List.flatMap_singleton]
      rfl
    refine ⟨.read (.data (byte :: bytes)) :: calls, fun noted => ?_,
      List.forall_mem_cons.2 ⟨⟨_, rfl⟩, reads⟩, answers.behind calm rfl arrived.symm⟩
    have there : (connection.noting noted).readFrame stream.noted = _ :=
      readFrame_of_data waits (List.cons_ne_nil _ _) (noted_read brought)
    rw [there, List.append_cons noted _ calls]
    exact makes _

/-- Reading a frame touches the stream and the buffer only. -/
theorem readFrame_keeps (stream : Stream σ) (connection : Connection σ) :
    ∃ state decoder, (connection.readFrame stream).2 =
      { connection with stream := state, decoder := decoder } := by
  fun_induction readFrame stream connection with
  | case1 | case2 | case3 | case4 | case5 => exact ⟨_, _, rfl⟩
  -- What comes later was read by a call that is like this one.
  | case6 connection _ _ after byte bytes _ ih => exact ih

/-- What is written for some bytes is a rest of them. -/
theorem Offers.written {bytes part : Bytes} {event : WriteEvent} {calls : List StreamCall}
    (offers : Offers bytes calls) (member : .write part event ∈ calls) :
    part ≠ [] ∧ part <:+ bytes := by
  obtain ⟨rest, last, same, offered⟩ := offers.own _ member
  cases same
  exact offered

/-- Writes bring nothing into the buffer. -/
theorem Offers.received {bytes : Bytes} {calls : List StreamCall} (offers : Offers bytes calls) :
    connection.received calls = connection.decoder := by
  -- Each of them is a write, and writes bring nothing.
  have nothing : calls.flatMap StreamCall.arrived = [] := by
    refine List.flatMap_eq_nil_iff.2 fun call member => ?_
    obtain ⟨rest, event, rfl, -⟩ := offers.own call member
    rfl
  rw [Connection.received, nothing, Decoder.append, List.append_nil]

end Connection

/-- A request, the calls that were made on the stream for it, and what they brought it to: the reply,
or why there is none. -/
structure Talk where
  request : Frame
  calls : List StreamCall
  answer : Except Halt Frame

/-- How a talk goes on a connection. It makes its calls and no others, and it starts with a write of
the whole request; nothing but a rest of it is written then. The calls bring it to its answer, and the
settings of the connection stay as they are. -/
structure Talk.Held (talk : Talk) (stream : Stream σ) (before after : Connection σ) : Prop where
  came : before.roundTrip stream talk.request = (talk.answer, after)
  makes : Connection.Makes (fun _ stream connection => connection.roundTrip stream talk.request)
    stream before talk.calls
  starts : ∃ event later, talk.calls = .write talk.request.encode event :: later
  own : ∀ part event, .write part event ∈ talk.calls →
    part ≠ [] ∧ part <:+ talk.request.encode
  answers : before.Answers talk.calls talk.answer
  keeps : ∃ state decoder written, after = { before with stream := state, decoder, written }

namespace Connection

variable {stream : Stream σ} {connection : Connection σ}

/-- A request that is not written whole has no reply. -/
theorem roundTrip_of_failed_write {request : Frame} {halt : Halt} {after : Connection σ}
    (rested : connection.encoder = {})
    (wrote : connection.writeAll stream request.encode = (.error halt, after)) :
    connection.roundTrip stream request = (.error halt, after) := by
  rw [roundTrip, writeFrame_of_rested rested, wrote]

/-- The reply to a request is read once it is written whole. -/
theorem roundTrip_of_write {request : Frame} {middle : Connection σ}
    (rested : connection.encoder = {})
    (wrote : connection.writeAll stream request.encode = (.ok (), middle)) :
    connection.roundTrip stream request = middle.readFrame stream := by
  rw [roundTrip, writeFrame_of_rested rested, wrote]

/-- A request that finds nothing else to be written is a talk. -/
theorem roundTrip_held (stream : Stream σ) (rested : connection.encoder = {}) (request : Frame) :
    ∃ talk : Talk, talk.request = request ∧
      talk.Held stream connection (connection.roundTrip stream request).2 := by
  -- The request is written first, which leaves the buffer alone.
  obtain ⟨writes, made, offers, passes⟩ := writeAll_makes stream connection request.encode
  obtain ⟨state, accepted, kept, -⟩ := writeAll_accepts stream connection request.encode
  obtain ⟨event, later, first⟩ := offers.starts (List.ne_nil_of_length_pos request.encode_length_pos)
  simp only [Makes] at made
  cases wrote : connection.writeAll stream request.encode with
  | mk outcome middle =>
    simp only [wrote] at made passes kept
    subst kept
    -- Written or not decides whether the reply is read at all.
    cases outcome with
    | error halt =>
      have failed := roundTrip_of_failed_write rested wrote
      refine ⟨⟨request, writes, .error halt⟩, rfl, by rw [failed], fun noted => ?_,
        ⟨event, later, first⟩, fun _ _ => offers.written, .halted passes,
        state, connection.decoder, _, by rw [failed]⟩
      have there : (connection.noting noted).roundTrip stream.noted request = _ :=
        roundTrip_of_failed_write rested (made noted)
      simp only [failed, there]
    | ok =>
      -- The reads come behind the writes, with everything that was buffered before.
      have onward := roundTrip_of_write rested wrote
      obtain ⟨reads, read, only_reads, answers⟩ := readFrame_makes stream
        { connection with stream := state, written := connection.written ++ accepted }
      obtain ⟨last, decoder, same⟩ := readFrame_keeps stream
        { connection with stream := state, written := connection.written ++ accepted }
      simp only [Makes] at read
      rw [← onward] at read answers same
      refine ⟨⟨request, writes ++ reads, (connection.roundTrip stream request).1⟩, rfl, rfl,
        fun noted => ?_, ⟨event, later ++ reads, by rw [first]; rfl⟩, fun bytes event member => ?_,
        answers.behind passes rfl offers.received.symm, last, decoder, _, same⟩
      · have there : (connection.noting noted).roundTrip stream.noted request = _ :=
          roundTrip_of_write rested (made noted)
        rw [← List.append_assoc, ← read]
        exact there
      · -- The reads write nothing, so what is written was written for the request.
        refine offers.written ((List.mem_append.1 member).resolve_right fun member => ?_)
        obtain ⟨event, same⟩ := only_reads _ member
        cases same

end Connection

end RedisCluster
