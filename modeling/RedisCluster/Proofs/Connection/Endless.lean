import RedisCluster.Proofs.Network.RoundTrips

/-! Reading from a peer that never stops sending: whatever it sends, a call comes to an end, and the
buffer is within the limit whenever the call goes on reading. -/

namespace RedisCluster

variable {σ : Type}

/-- A stream goes from state to state and brings a chunk at each, without end and without errors, and
no chunk is empty. -/
structure Stream.Endless (stream : Stream σ) (states : Nat → σ) (chunks : Nat → Bytes) : Prop where
  brings : ∀ i, stream.read (states i) = (.data (chunks i), states (i + 1))
  some_bytes : ∀ i, chunks i ≠ []

/-- A decoder that has received some chunks behind others. -/
def Decoder.receive (decoder : Decoder) (chunks : Nat → Bytes) (start count : Nat) : Decoder :=
  decoder.append ((List.range' start count).flatMap chunks)

namespace Decoder

/-- Without chunks a decoder stays as it is. -/
theorem receive_zero (decoder : Decoder) (chunks : Nat → Bytes) (start : Nat) :
    decoder.receive chunks start 0 = decoder := by
  simp [receive, append]

/-- The first chunk is received before the others. -/
theorem receive_succ (decoder : Decoder) (chunks : Nat → Bytes) (start count : Nat) :
    decoder.receive chunks start (count + 1) =
      (decoder.append (chunks start)).receive chunks (start + 1) count := by
  simp [receive, append, List.range'_succ]

end Decoder

namespace Connection

variable {stream : Stream σ} {states : Nat → σ} {chunks : Nat → Bytes}

/-- A call has read a number of chunks and ended with what the decoder makes of them: a frame, or an
error of the bytes. -/
inductive Ends (stream : Stream σ) (states : Nat → σ) (connection : Connection σ)
    (place : Nat) (received : Decoder) : Prop where
  | frame {frame : Frame} {after : Decoder} (taken : received.decode = (.ok (some frame), after))
      (returned : connection.readFrame stream =
        (.ok frame, { connection with stream := states place, decoder := after }))
  | malformed {fault : DecodeError} (judged : received.decode = (.error fault, received))
      (returned : connection.readFrame stream =
        (.error (.failed (.decode fault)),
          { connection with stream := states place, decoder := received }))

/-- A call reads no more chunks than there are bytes missing to exceed the limit. Before each of them
the decoder waits with a buffer within the limit, and behind the last one it has come to a result. -/
theorem readFrame_ends (endless : stream.Endless states chunks) (connection : Connection σ)
    (start : Nat) (arrived : connection.stream = states start) :
    ∃ reads ≤ connection.decoder.limit + 1 - connection.decoder.buffered,
      (∀ earlier < reads, let waiting := connection.decoder.receive chunks start earlier
        waiting.decode = (.ok none, waiting) ∧ waiting.buffered ≤ connection.decoder.limit) ∧
      Ends stream states connection (start + reads)
        (connection.decoder.receive chunks start reads) := by
  -- Every chunk adds a byte to the buffer, so the induction is on the bytes missing to the limit.
  generalize missing : connection.decoder.limit + 1 - connection.decoder.buffered = room
  induction room using Nat.strongRecOn generalizing connection start with
  | ind room ih =>
    -- The decoder has a frame, finds a fault, or waits for more.
    rcases connection.decoder.decode_cases with ⟨frame, rest, -, taken⟩ | ⟨fault, judged, -⟩ | waits
    · refine ⟨0, Nat.zero_le _, nofun, ?_⟩
      rw [Decoder.receive_zero]
      refine .frame taken ?_
      rw [readFrame_of_taken taken, Nat.add_zero, ← arrived]
    · refine ⟨0, Nat.zero_le _, nofun, ?_⟩
      rw [Decoder.receive_zero]
      refine .malformed judged ?_
      rw [readFrame_of_judged judged, Nat.add_zero, ← arrived]
    · have small := Decoder.buffered_le_limit waits
      -- The chunk that is read next makes the buffer longer.
      have next := readFrame_of_data waits (endless.some_bytes start)
        (show stream.read connection.stream = _ by rw [arrived, endless.brings])
      have grown : connection.decoder.limit + 1 -
          (connection.decoder.append (chunks start)).buffered < room := by
        have some_bytes := List.length_pos_iff.2 (endless.some_bytes start)
        simp only [Decoder.buffered, Decoder.append, List.length_append] at missing small ⊢
        omega
      -- From the longer buffer on fewer bytes are missing, so the reads behind are counted already.
      obtain ⟨reads, few, earlier, ends⟩ := ih _ grown
        { connection with
          stream := states (start + 1)
          decoder := connection.decoder.append (chunks start) } (start + 1) rfl rfl
      refine ⟨reads + 1, Nat.succ_le_of_lt (Nat.lt_of_le_of_lt few grown), ?_, ?_⟩
      · intro count fewer
        -- Before the first chunk the decoder waits here, and before later ones as it does from
        -- there.
        cases count with
        | zero => rw [Decoder.receive_zero]; exact ⟨waits, small⟩
        | succ count =>
          rw [Decoder.receive_succ]
          exact earlier count (Nat.lt_of_succ_lt_succ fewer)
      · rw [Decoder.receive_succ, Nat.add_comm reads 1, ← Nat.add_assoc]
        -- What the later reads end with is what this call returns.
        cases ends with
        | frame taken returned => exact .frame taken (next.trans returned)
        | malformed judged returned => exact .malformed judged (next.trans returned)

/-- A call that reads from a peer which never stops sending ends with a frame or with an error of the
bytes, whatever they are and whatever the limit, and it reads at most one chunk more than the limit
has bytes. Whenever it reads on, the decoder has found no whole frame in the buffer and nothing wrong
with it, and the buffer is within the limit. -/
theorem reading_ends (stream : Stream σ) (connection : Connection σ) (states : Nat → σ)
    (chunks : Nat → Bytes) (endless : stream.Endless states chunks)
    (begins : connection.stream = states 0) :
    ∃ reads ≤ connection.decoder.limit + 1,
      (∀ earlier < reads,
        let waiting := connection.decoder.append ((List.range earlier).flatMap chunks)
        waiting.decode = (.ok none, waiting) ∧ waiting.buffered ≤ connection.decoder.limit) ∧
      Ends stream states connection reads
        (connection.decoder.append ((List.range reads).flatMap chunks)) := by
  obtain ⟨reads, few, earlier, ends⟩ := readFrame_ends endless connection 0 begins
  -- The reads begin with the first chunk of all.
  simp only [Decoder.receive, ← List.range_eq_range', Nat.zero_add] at earlier ends
  exact ⟨reads, Nat.le_trans few (Nat.sub_le _ _), earlier, ends⟩

/-- A line that never ends, of which every read brings a byte more, is given up behind the third byte
if the limit is two. -/
theorem reading_ends_of_line :
    let stream : Stream Nat :=
      ⟨fun place => (.data [43], place + 1), fun bytes place => (.accepts bytes.length, place)⟩
    let connection : Connection Nat := { stream := 0, decoder := ⟨2, []⟩ }
    stream.Endless id (fun _ => [43]) ∧
      connection.readFrame stream =
        (.error (.failed (.decode (.frameTooLarge 3 2))),
          { connection with stream := 3, decoder := ⟨2, [43, 43, 43]⟩ }) := by
  intro stream connection
  have endless : stream.Endless id (fun _ => [43]) := ⟨fun _ => rfl, fun _ => nofun⟩
  refine ⟨endless, ?_⟩
  obtain ⟨reads, few, -, ends⟩ := reading_ends stream connection id _ endless rfl
  have few : reads ≤ 3 := few
  -- With fewer than three bytes the decoder waits, so the call has not ended yet.
  have waits : ∀ count < 3, (connection.decoder.append
      ((List.range count).flatMap fun _ => [43])).decode.1 = .ok none := by
    decide
  -- With three bytes the limit is exceeded, so no more are read.
  have three : reads = 3 := by
    by_contra other
    have idle := waits reads (by omega)
    cases ends with
    | frame taken => rw [taken] at idle; cases idle
    | malformed judged => rw [judged] at idle; cases idle
  subst three
  cases ends with
  | frame taken => cases taken
  | malformed judged returned =>
    cases judged
    exact returned

end Connection

end RedisCluster
