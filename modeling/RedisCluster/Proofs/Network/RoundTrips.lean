import RedisCluster.Proofs.Connection.Writing
import RedisCluster.Proofs.Network.Exchange

/-! Requests that are made one after the other on one connection get the replies to them, however
the stream cuts what is written and what is read. -/

namespace RedisCluster

/-- Fewer bytes than a decoder holds by default have a length that numerals of frames can name. -/
theorem Decoder.addressable_of_fits {bytes : Bytes} (fits : bytes.length ≤ ({} : Decoder).limit) :
    bytes.length < 2 ^ 63 :=
  Nat.lt_of_le_of_lt fits (by decide)

/-- A stream that takes some bytes with every write. -/
def StreamScript.Accepting (script : StreamScript) : Prop :=
  ∃ counts : List Nat, script.writes = counts.map fun count => .accepts (count + 1)

/-- A stream that takes some bytes with every write takes some, and goes on so. -/
theorem StreamScript.Accepting.write {script : StreamScript} (accepting : script.Accepting)
    {bytes : Bytes} (some_bytes : bytes ≠ []) :
    ∃ (count : Nat) (after : StreamScript), script.write bytes = (.accepts (count + 1), after) ∧
      after.Accepting ∧ after.reads = script.reads := by
  obtain ⟨counts, writes⟩ := accepting
  cases counts with
  | nil =>
    -- Behind its end the script lets all of the bytes through.
    obtain ⟨fewer, size⟩ := Nat.exists_eq_add_one.2 (List.length_pos_iff.2 some_bytes)
    exact ⟨fewer, script, by simp [StreamScript.write, writes, size], ⟨[], writes⟩, rfl⟩
  | cons count rest =>
    exact ⟨count, { script with writes := rest.map fun count => .accepts (count + 1) },
      by simp [StreamScript.write, writes], ⟨rest, rfl⟩, rfl⟩

namespace Connection

section Generic

variable {σ : Type}

/-- Makes requests one after the other, and collects the replies until one fails. -/
def roundTrips (stream : Stream σ) (connection : Connection σ) :
    List Frame → Except Halt (List Frame) × Connection σ
  | [] => (.ok [], connection)
  | request :: rest =>
    match connection.roundTrip stream request with
    | (.error halt, after) => (.error halt, after)
    | (.ok reply, after) =>
      match roundTrips stream after rest with
      | (.error halt, last) => (.error halt, last)
      | (.ok replies, last) => (.ok (reply :: replies), last)

variable {stream : Stream σ} {connection : Connection σ} {after : σ}

/-- When the stream takes a part of the bytes, the others are written next. -/
theorem writeAll_of_accepts {bytes : Bytes} {count : Nat} (some_bytes : bytes ≠ [])
    (took : stream.write bytes connection.stream = (.accepts (count + 1), after)) :
    connection.writeAll stream bytes =
      writeAll stream (accept { connection with stream := after } (bytes.take (count + 1)))
        (bytes.drop (count + 1)) := by
  -- There are bytes to write, so the stream is asked.
  rw [writeAll, if_neg (fun empty => some_bytes (List.isEmpty_iff.1 empty))]
  simp only [took]

/-- A frame that the decoder takes out of the buffer is returned at once. -/
theorem readFrame_of_taken {frame : Frame} {after : Decoder}
    (taken : connection.decoder.decode = (.ok (some frame), after)) :
    connection.readFrame stream = (.ok frame, { connection with decoder := after }) := by
  rw [readFrame, taken]

/-- An error of the bytes in the buffer is returned at once. -/
theorem readFrame_of_judged {fault : DecodeError} {after : Decoder}
    (judged : connection.decoder.decode = (.error fault, after)) :
    connection.readFrame stream =
      (.error (.failed (.decode fault)), { connection with decoder := after }) := by
  rw [readFrame, judged]

/-- A frame at the front of the buffer is returned at once. -/
theorem readFrame_of_done {frame : Frame} {rest : Bytes}
    (read : Frame.parse connection.decoder.limit connection.decoder.buffer = .done frame rest) :
    connection.readFrame stream =
      (.ok frame, { connection with decoder := { connection.decoder with buffer := rest } }) :=
  readFrame_of_taken (Decoder.decode_of_done read)

/-- Bytes that arrive while the buffer waits are appended to it. -/
theorem readFrame_of_data {bytes : Bytes}
    (waits : connection.decoder.decode = (.ok none, connection.decoder)) (some_bytes : bytes ≠ [])
    (brought : stream.read connection.stream = (.data bytes, after)) :
    connection.readFrame stream =
      readFrame stream
        { connection with stream := after, decoder := connection.decoder.append bytes } := by
  obtain ⟨byte, others, rfl⟩ := List.exists_cons_of_ne_nil some_bytes
  -- A read that brings bytes is not the end of the stream.
  rw [readFrame, waits]
  simp only [brought]

end Generic

variable {connection : Connection StreamScript} {reply : Frame}

/-- Some bytes are in the buffer or still to be read, in pieces of any size, and no others are. -/
structure Expecting (connection : Connection StreamScript) (bytes : Bytes) : Prop where
  limit : connection.decoder.limit = ({} : Decoder).limit
  pieces : ∃ chunks : List Bytes, connection.stream.reads = chunks.map .data ∧
    (∀ chunk ∈ chunks, chunk ≠ []) ∧ connection.decoder.buffer ++ chunks.flatten = bytes

/-- Where nothing is expected, everything has been read and decoded. -/
theorem Expecting.done (expecting : connection.Expecting []) :
    connection.decoder = {} ∧ connection.stream.reads = [] := by
  obtain ⟨limit, chunks, reads, some_bytes, whole⟩ := expecting
  obtain ⟨buffer, flat⟩ := List.append_eq_nil_iff.1 whole
  -- Every chunk has a byte, so there is no chunk.
  have none_left : chunks = [] := by
    cases chunks with
    | nil => rfl
    | cons chunk rest =>
      exact absurd (List.append_eq_nil_iff.1 flat).1 (some_bytes chunk (List.mem_cons_self ..))
  exact ⟨congrArg₂ Decoder.mk limit buffer, by rw [reads, none_left]; rfl⟩

/-- All the bytes are written, however many of them the stream takes at a time. -/
theorem writeAll_of_accepting (bytes : Bytes) (accepting : connection.stream.Accepting) :
    ∃ after : StreamScript, after.Accepting ∧ after.reads = connection.stream.reads ∧
      connection.writeAll StreamScript.stream bytes =
        (.ok (), { connection with stream := after, written := connection.written ++ bytes }) := by
  -- Every write takes a byte at least, so what is left to write gets shorter.
  generalize size : bytes.length = n
  induction n using Nat.strongRecOn generalizing connection bytes with
  | ind n ih =>
    by_cases empty : bytes = []
    -- Nothing is left to write.
    · rw [empty, writeAll_nil, List.append_nil]
      exact ⟨_, accepting, rfl, rfl⟩
    · obtain ⟨count, after, took, onward, same⟩ := accepting.write empty
      have shorter : (bytes.drop (count + 1)).length < n := by
        have := List.length_pos_iff.2 empty
        rw [List.length_drop]
        omega
      -- What is left goes on from the stream that took the first bytes.
      obtain ⟨last, still, kept, written⟩ := @ih _ shorter
        (accept { connection with stream := after } (bytes.take (count + 1))) _ onward rfl
      refine ⟨last, still, kept.trans same, ?_⟩
      rw [writeAll_of_accepts empty took, written]
      simp [accept]

/-- A reply all of whose bytes are in the buffer is returned at once. -/
theorem readFrame_of_arrived {rest : Bytes} (unbroken : reply.Unbroken)
    (limit : connection.decoder.limit = ({} : Decoder).limit)
    (allowed : reply.encode.length ≤ ({} : Decoder).limit)
    (arrived : reply.encode ++ rest = connection.decoder.buffer) :
    connection.readFrame StreamScript.stream =
      (.ok reply, { connection with decoder := { connection.decoder with buffer := rest } }) := by
  refine readFrame_of_done ?_
  rw [← arrived, limit]
  exact Frame.parse_encode unbroken allowed (Decoder.addressable_of_fits allowed) rest

/-- The front of a reply that lacks some bytes is kept in the buffer. -/
theorem decode_of_lacking {missing : Bytes} (unbroken : reply.Unbroken)
    (limit : connection.decoder.limit = ({} : Decoder).limit)
    (allowed : reply.encode.length ≤ ({} : Decoder).limit) (lacks : missing ≠ [])
    (part : connection.decoder.buffer ++ missing = reply.encode) :
    connection.decoder.decode = (.ok none, connection.decoder) := by
  -- The whole reply is a frame, so a front of it is none.
  have whole := Frame.parse_encode unbroken allowed (Decoder.addressable_of_fits allowed) []
  rw [List.append_nil, ← part, ← limit] at whole
  refine Decoder.decode_of_incomplete (Frame.parse_incomplete lacks whole) ?_
  -- The part is within the limit, as the whole is.
  have size := congrArg List.length part
  rw [List.length_append] at size
  rw [Decoder.buffered, limit]
  omega

/-- A reply at the front of the bytes that are expected is read, and the bytes behind it are still
expected then. -/
theorem Expecting.readFrame {more : Bytes} (expecting : connection.Expecting (reply.encode ++ more))
    (unbroken : reply.Unbroken) (allowed : reply.encode.length ≤ ({} : Decoder).limit) :
    ∃ (reads : List ReadEvent) (decoder : Decoder),
      connection.readFrame StreamScript.stream =
        (.ok reply, { connection with stream := { connection.stream with reads }, decoder }) ∧
      Expecting { connection with stream := { connection.stream with reads }, decoder } more := by
  obtain ⟨limit, chunks, reads, some_bytes, whole⟩ := expecting
  -- The induction is on the pieces still to be read; the last one completes the reply at latest.
  induction chunks generalizing connection with
  | nil =>
    -- All pieces are read, so the buffer holds the reply and what follows it.
    rw [List.flatten_nil, List.append_nil] at whole
    exact ⟨_, _, readFrame_of_arrived unbroken limit allowed whole.symm, limit, [], reads, nofun,
      List.append_nil _⟩
  | cons chunk rest ih =>
    by_cases arrived : reply.encode <+: connection.decoder.buffer
    -- The buffer already holds the reply, and the pieces belong to what follows.
    · obtain ⟨others, arrived⟩ := arrived
      rw [← arrived, List.append_assoc] at whole
      exact ⟨_, _, readFrame_of_arrived unbroken limit allowed arrived, limit, chunk :: rest, reads,
        some_bytes, List.append_cancel_left whole⟩
    · -- Some of the reply is still on its way, so the client waits for the next piece.
      obtain ⟨missing, part⟩ : connection.decoder.buffer <+: reply.encode :=
        (List.prefix_or_prefix_of_prefix ⟨_, whole⟩ ⟨_, rfl⟩).resolve_right arrived
      have lacks : missing ≠ [] := by
        rintro rfl
        exact arrived ⟨[], by rw [← part, List.append_nil, List.append_nil]⟩
      have waits := decode_of_lacking unbroken limit allowed lacks part
      have brought : StreamScript.stream.read connection.stream =
          (.data chunk, { connection.stream with reads := rest.map .data }) := by
        simp [StreamScript.stream, StreamScript.read, reads]
      -- The piece is put behind the front that has arrived.
      rw [readFrame_of_data waits (some_bytes chunk (List.mem_cons_self ..)) brought]
      exact @ih { connection with
          stream := { connection.stream with reads := rest.map .data }
          decoder := connection.decoder.append chunk }
        limit rfl (fun piece member => some_bytes piece (List.mem_cons_of_mem _ member))
        (by rw [← whole]; simp [Decoder.append])

/-- A request is written whole and gets the reply that is expected next. -/
theorem Expecting.roundTrip {more : Bytes} (expecting : connection.Expecting (reply.encode ++ more))
    (request : Frame) (accepting : connection.stream.Accepting) (encoder : connection.encoder = {})
    (unbroken : reply.Unbroken) (allowed : reply.encode.length ≤ ({} : Decoder).limit) :
    ∃ (stream : StreamScript) (decoder : Decoder), stream.Accepting ∧
      Expecting { connection with stream, decoder, written := connection.written ++ request.encode }
        more ∧
      connection.roundTrip StreamScript.stream request =
        (.ok reply,
          { connection with stream, decoder, written := connection.written ++ request.encode }) := by
  -- The request goes out first.
  obtain ⟨sent, still, same, written⟩ := writeAll_of_accepting request.encode accepting
  -- Writing takes nothing away from what is read.
  have onward : Expecting { connection with
      stream := sent, written := connection.written ++ request.encode } (reply.encode ++ more) := by
    obtain ⟨limit, chunks, reads, pieces⟩ := expecting
    exact ⟨limit, chunks, same.trans reads, pieces⟩
  obtain ⟨reads, decoder, read, rest⟩ := onward.readFrame unbroken allowed
  -- Sending and reading share the connection, and neither touches the other's part.
  refine ⟨{ sent with reads }, decoder, still, rest, ?_⟩
  simp only [Connection.roundTrip, writeFrame_of_rested encoder, written, read]

/-- Requests that are made one after the other get the replies that are expected, and nothing else
is written or read. -/
theorem Expecting.roundTrips {exchanges : List (Frame × Frame)}
    (expecting : connection.Expecting (Frame.encodeAll (exchanges.map Prod.snd)))
    (accepting : connection.stream.Accepting) (encoder : connection.encoder = {})
    (unbroken : Frame.AllUnbroken (exchanges.map Prod.snd))
    (fits : (Frame.encodeAll (exchanges.map Prod.snd)).length ≤ ({} : Decoder).limit) :
    ∃ left : List WriteEvent,
      connection.roundTrips StreamScript.stream (exchanges.map Prod.fst) =
        (.ok (exchanges.map Prod.snd),
          { connection with
            stream := ⟨[], left⟩
            decoder := {}
            written := connection.written ++ Frame.encodeAll (exchanges.map Prod.fst) }) := by
  induction exchanges generalizing connection with
  | nil =>
    -- The decoder is empty and the script has nothing left to be read.
    obtain ⟨decoder, reads⟩ := expecting.done
    exact ⟨connection.stream.writes, by
      simp [Connection.roundTrips, Frame.encodeAll, ← decoder, ← reads]⟩
  | cons exchange rest ih =>
    obtain ⟨request, reply⟩ := exchange
    simp only [List.map_cons, Frame.encodeAll, List.length_append] at expecting fits ⊢
    -- The first reply is read, and the others are expected behind it.
    obtain ⟨stream, decoder, still, onward, first⟩ := expecting.roundTrip request accepting encoder
      unbroken.1 (Nat.le_trans (Nat.le_add_right _ _) fits)
    obtain ⟨left, others⟩ := ih onward still encoder unbroken.2
      (Nat.le_trans (Nat.le_add_left _ _) fits)
    refine ⟨left, ?_⟩
    simp only [Connection.roundTrips, first, others, List.append_assoc]

/-- Requests that are made one after the other get the replies to them in their order, and exactly
the requests are written, however many bytes the stream takes at a time and however the replies are
cut: a piece may end within a reply, and it may begin or hold any number of later ones. -/
theorem roundTrips_ignore_cuts (connection : Connection StreamScript)
    (exchanges : List (Frame × Frame)) (chunks : List Bytes) (counts : List Nat)
    (rested : connection.decoder = {} ∧ connection.encoder = {})
    (scripted : connection.stream =
      ⟨chunks.map .data, counts.map fun count => .accepts (count + 1)⟩)
    (some_bytes : ∀ chunk ∈ chunks, chunk ≠ [])
    (delivered : chunks.flatten = Frame.encodeAll (exchanges.map Prod.snd))
    (unbroken : Frame.AllUnbroken (exchanges.map Prod.snd))
    (fits : chunks.flatten.length ≤ ({} : Decoder).limit) :
    ∃ left : List WriteEvent,
      connection.roundTrips StreamScript.stream (exchanges.map Prod.fst) =
        (.ok (exchanges.map Prod.snd),
          { connection with
            stream := ⟨[], left⟩
            written := connection.written ++ Frame.encodeAll (exchanges.map Prod.fst) }) := by
  have expecting : connection.Expecting (Frame.encodeAll (exchanges.map Prod.snd)) :=
    ⟨by rw [rested.1], chunks, by rw [scripted], some_bytes, by rw [rested.1]; exact delivered⟩
  have accepting : connection.stream.Accepting := ⟨counts, by rw [scripted]⟩
  obtain ⟨left, made⟩ := expecting.roundTrips accepting rested.2 unbroken (delivered ▸ fits)
  exact ⟨left, by rw [made, ← rested.1]⟩

/-- Two requests, written in parts of three bytes and two. The first piece that is read ends within
the line end of the first reply, and the second one brings all that is missing of both. -/
theorem roundTrips_ignore_cuts_across_replies :
    let connection : Connection StreamScript :=
      { stream := ⟨[.data [43, 79, 75, 13], .data [10, 36, 45, 49, 13, 10]],
          [.accepts 3, .accepts 2]⟩ }
    ∃ left, connection.roundTrips StreamScript.stream [.simple "a", .integer 7] =
      (.ok [.simple "OK", .bulk none],
        { stream := ⟨[], left⟩, written := [43, 97, 13, 10, 58, 55, 13, 10] }) :=
  roundTrips_ignore_cuts _ [(.simple "a", .simple "OK"), (.integer 7, .bulk none)]
    [[43, 79, 75, 13], [10, 36, 45, 49, 13, 10]] [2, 1] ⟨rfl, rfl⟩ rfl (by decide) (by decide)
    ⟨(by decide : ¬ ['\r', '\n'] <:+: "OK".toList), trivial, trivial⟩ (by decide)

end Connection

end RedisCluster
