import RedisCluster.Proofs.Network.RoundTrips

/-! Frames read one after the other: which of the bytes that arrive they are made of, also where calls
fail before a frame is whole. -/

namespace RedisCluster

/-- The bytes that a read brings. -/
def ReadEvent.bytes : ReadEvent → Bytes
  | .data bytes => bytes
  | .failure _ | .stall => []

/-- The bytes that some reads bring in a row. -/
def delivered (events : List ReadEvent) : Bytes :=
  events.flatMap ReadEvent.bytes

/-- Reads in a row bring their bytes in a row. -/
theorem delivered_append (front back : List ReadEvent) :
    delivered (front ++ back) = delivered front ++ delivered back :=
  List.flatMap_append

namespace StreamScript

/-- The next read of a script in which a stall passes: it holds up one call, and the next one reads on
behind it. -/
def readOn (script : StreamScript) : ReadEvent × StreamScript :=
  match script.reads with
  | [] => (.data [], script)
  | event :: rest => (event, { script with reads := rest })

/-- The stream that follows a script past its stalls. -/
def passing : Stream StreamScript :=
  ⟨readOn, write⟩

/-- A read uses up its event, if the script has any left, and brings the bytes of it. -/
theorem delivered_of_read {script after : StreamScript} {event : ReadEvent}
    (read : passing.read script = (event, after)) :
    ∃ used, script.reads = used ++ after.reads ∧ delivered used = event.bytes := by
  simp only [passing, readOn] at read
  -- A script without events is at its end, and stays there.
  split at read
  · cases read
    exact ⟨[], rfl, rfl⟩
  · rename_i next rest same
    cases read
    exact ⟨[event], same, by simp [delivered]⟩

end StreamScript

namespace Decoder

/-- A decoder that gives no frame stays as it was. -/
theorem eq_of_decode {decoder after : Decoder} {result : Except DecodeError (Option Frame)}
    (decoded : decoder.decode = (result, after)) (none_taken : ∀ frame, result ≠ .ok (some frame)) :
    after = decoder := by
  have kept := decode_keeps decoder (by rwa [decoded])
  rwa [decoded] at kept

/-- Some bytes are the bytes of some frames, whatever comes behind them. -/
def Spends (limit : Nat) (front : Bytes) (frames : List Frame) : Prop :=
  ∀ more, (⟨limit, front ++ more⟩ : Decoder).drain =
    (frames ++ (⟨limit, more⟩ : Decoder).drain.1, (⟨limit, more⟩ : Decoder).drain.2)

namespace Spends

variable {limit : Nat} {front back : Bytes} {frames others : List Frame}

/-- Without bytes there are no frames. -/
theorem nil : Spends limit [] [] :=
  fun _ => rfl

/-- Bytes in a row are the bytes of the frames in a row. -/
theorem append (first : Spends limit front frames) (second : Spends limit back others) :
    Spends limit (front ++ back) (frames ++ others) := by
  intro more
  rw [List.append_assoc, first, second, List.append_assoc]

/-- A frame that is taken out of a buffer was made of the bytes at its front. -/
theorem of_decode {decoder after : Decoder} {frame : Frame}
    (taken : decoder.decode = (.ok (some frame), after)) :
    ∃ front, decoder.buffer = front ++ after.buffer ∧ Spends decoder.limit front [frame] := by
  -- The frame was made of the bytes at the front, whatever stands behind them.
  obtain ⟨read, -⟩ := parse_of_decode taken
  obtain ⟨front, whole, again⟩ := (Frame.parse_frontOnly decoder.limit).taken read
  exact ⟨front, whole.symm, fun more => @drain_of_done ⟨_, front ++ more⟩ _ _ (again more)⟩

/-- With nothing behind them, the bytes give the frames and are used up. -/
theorem drain_eq (spends : Spends limit front frames) :
    (⟨limit, front⟩ : Decoder).drain = (frames, none, ⟨limit, []⟩) := by
  have alone := spends []
  rwa [List.append_nil, drain_nil, List.append_nil] at alone

end Spends

end Decoder

namespace Connection

/-- On the way from one state to another, some events of the script were used up, and some frames were
taken from the front of the bytes that were buffered at first or delivered since. -/
structure Takes (before after : Connection StreamScript) (used : List ReadEvent)
    (frames : List Frame) : Prop where
  reads : before.stream.reads = used ++ after.stream.reads
  limit : after.decoder.limit = before.decoder.limit
  front : ∃ front, before.decoder.buffer ++ delivered used = front ++ after.decoder.buffer ∧
    Decoder.Spends before.decoder.limit front frames

namespace Takes

variable {before middle after : Connection StreamScript} {used more : List ReadEvent}
  {frames others : List Frame}

/-- Where nothing happens nothing is taken. -/
theorem refl (connection : Connection StreamScript) : Takes connection connection [] [] :=
  ⟨rfl, rfl, [], List.append_nil _, .nil⟩

/-- What was taken in two parts was taken. -/
theorem trans (first : Takes before middle used frames) (second : Takes middle after more others) :
    Takes before after (used ++ more) (frames ++ others) := by
  -- The front of the second part comes behind that of the first one.
  obtain ⟨front, whole, spends⟩ := first.front
  obtain ⟨back, rest, spends_too⟩ := second.front
  rw [first.limit] at spends_too
  refine ⟨by rw [first.reads, second.reads, List.append_assoc], second.limit.trans first.limit,
    front ++ back, ?_, spends.append spends_too⟩
  rw [delivered_append, ← List.append_assoc, whole, List.append_assoc, rest, List.append_assoc]

/-- A read takes no frame, and the bytes that it brings are kept. -/
theorem of_read {connection : Connection StreamScript} {last : StreamScript} {event : ReadEvent}
    (read : StreamScript.passing.read connection.stream = (event, last)) :
    ∃ used, Takes connection
      { connection with stream := last, decoder := connection.decoder.append event.bytes } used [] := by
  -- The bytes of the event come behind those that are buffered.
  obtain ⟨used, reads, bytes⟩ := StreamScript.delivered_of_read read
  exact ⟨used, reads, rfl, [], by rw [bytes]; rfl, .nil⟩

/-- A read without bytes leaves the buffer as it was. -/
theorem of_vain_read {connection : Connection StreamScript} {last : StreamScript} {event : ReadEvent}
    (read : StreamScript.passing.read connection.stream = (event, last)) (vain : event.bytes = []) :
    ∃ used, Takes connection { connection with stream := last } used [] := by
  obtain ⟨used, takes⟩ := of_read read
  rw [vain] at takes
  have same : connection.decoder.append [] = connection.decoder := by
    rw [Decoder.append, List.append_nil]
  rw [same] at takes
  exact ⟨used, takes⟩

end Takes

/-- A call takes the frame that it returns, and none if it fails. -/
theorem readFrame_takes (connection : Connection StreamScript) :
    ∃ used, Takes connection (connection.readFrame StreamScript.passing).2 used
      (connection.readFrame StreamScript.passing).1.toOption.toList := by
  -- The buffer is no frame or has one, or the stream stalls, fails, ends or brings more.
  fun_induction readFrame StreamScript.passing connection with
  | case1 connection fault decoder decoded =>
    obtain rfl := Decoder.eq_of_decode decoded (by simp)
    exact ⟨[], .refl connection⟩
  -- The frame is the one that stands at the front of the buffer.
  | case2 connection frame decoder decoded =>
    obtain ⟨front, whole, spends⟩ := Decoder.Spends.of_decode decoded
    have limit := congrArg Decoder.limit (Decoder.parse_of_decode decoded).2
    exact ⟨[], rfl, limit, front, by simpa [delivered] using whole, spends⟩
  | case3 connection _ decoded after read => exact Takes.of_vain_read read rfl
  | case4 connection _ decoded after message read => exact Takes.of_vain_read read rfl
  | case5 connection _ decoded after read => exact Takes.of_vain_read read rfl
  -- The bytes that have arrived are kept, and the rest of the call goes on from there.
  | case6 connection _ decoded after byte bytes read ih =>
    obtain ⟨used, arrived⟩ := Takes.of_read read
    obtain ⟨more, taken⟩ := ih
    exact ⟨used ++ more, arrived.trans taken⟩

/-- A call that fails leaves no whole frame in the buffer. -/
theorem drain_of_failed_read {σ : Type} {stream : Stream σ} {connection after : Connection σ}
    {halt : Halt} (failed : connection.readFrame stream = (.error halt, after)) :
    after.decoder.drain.1 = [] := by
  -- The bytes are no frame, or the stream stalls, fails or ends while they are the front of one.
  fun_induction readFrame stream connection with
  | case1 connection fault decoder decoded =>
    cases failed
    obtain rfl := Decoder.eq_of_decode decoded (by simp)
    rw [Decoder.drain_of_error decoded]
  | case2 => cases failed
  | case3 connection decoder decoded
  | case4 connection decoder decoded
  | case5 connection decoder decoded =>
    cases failed
    obtain rfl := Decoder.eq_of_decode decoded (by simp)
    rw [Decoder.drain_of_wait decoded]
  | case6 connection _ _ _ _ _ _ ih => exact ih failed

/-- Reads frames one after the other, whether the calls succeed or not. -/
def readFrames {σ : Type} (stream : Stream σ) (connection : Connection σ) :
    Nat → List (Except Halt Frame) × Connection σ
  | 0 => ([], connection)
  | calls + 1 =>
    let (result, after) := connection.readFrame stream
    let (results, last) := readFrames stream after calls
    (result :: results, last)

/-- Calls in a row take the frames that they return. -/
theorem readFrames_takes (connection : Connection StreamScript) (calls : Nat) :
    ∃ used, Takes connection (connection.readFrames StreamScript.passing calls).2 used
      ((connection.readFrames StreamScript.passing calls).1.filterMap Except.toOption) := by
  induction calls generalizing connection with
  | zero => exact ⟨[], .refl connection⟩
  | succ calls ih =>
    -- Each call takes its frame from where the call before it has stopped.
    obtain ⟨used, first⟩ := readFrame_takes connection
    obtain ⟨more, others⟩ := ih (connection.readFrame StreamScript.passing).2
    refine ⟨used ++ more, ?_⟩
    have both := first.trans others
    simp only [readFrames, List.filterMap_cons]
    -- A call that failed has no frame to be counted.
    cases result : (connection.readFrame StreamScript.passing).1 with
    | error halt =>
      rw [result] at both
      exact both
    | ok frame =>
      rw [result] at both
      exact both

/-- The frames that calls return, in their order, are the first frames that are decoded from all the
bytes delivered by then, in a row behind those that were buffered at first, however many of the calls
fail in between and in whatever order data, errors, ends and stalls come. The bytes behind these frames
are in the buffer, and the frames in them are the next ones: nothing is lost and nothing comes twice. If
the buffer holds a whole frame, the next call returns it and reads nothing; and if the next call fails,
no whole frame is left to be returned. -/
theorem frames_outlast_failures (connection : Connection StreamScript) (calls : Nat) :
    let run := connection.readFrames StreamScript.passing calls
    let frames := run.1.filterMap Except.toOption
    (∃ used, connection.stream.reads = used ++ run.2.stream.reads ∧
      let received := connection.decoder.append (delivered used)
      received.drain.1 = frames ++ run.2.decoder.drain.1 ∧
      ∃ front, received.buffer = front ++ run.2.decoder.buffer ∧
        (⟨received.limit, front⟩ : Decoder).drain = (frames, none, ⟨received.limit, []⟩)) ∧
    (∀ frame after, run.2.decoder.decode = (.ok (some frame), after) →
      run.2.readFrame StreamScript.passing = (.ok frame, { run.2 with decoder := after })) ∧
    ∀ halt after, run.2.readFrame StreamScript.passing = (.error halt, after) →
      after.decoder.drain.1 = [] := by
  intro run frames
  -- All calls together have taken frames from the front of what was delivered.
  obtain ⟨used, reads, limit, front, whole, spends⟩ := readFrames_takes connection calls
  refine ⟨⟨used, reads, ?_, front, whole, spends.drain_eq⟩, fun frame after taken => ?_,
    fun halt after failed => drain_of_failed_read failed⟩
  -- What is left to be decoded is what the connection has in its buffer.
  · have left : (⟨connection.decoder.limit, run.2.decoder.buffer⟩ : Decoder) = run.2.decoder := by
      rw [← limit]
    have drained := congrArg Prod.fst (spends run.2.decoder.buffer)
    rw [← whole, left] at drained
    exact drained
  -- A whole frame in the buffer is returned before anything is read.
  · obtain ⟨read, same⟩ := Decoder.parse_of_decode taken
    rw [readFrame_of_done read, same]

/-- A call runs into a stall behind the front of a frame, and another one into an error within its line
end; the bytes that come after that bring two frames at once, of which one is kept for the next call. -/
example :
    let connection : Connection StreamScript :=
      { stream := ⟨[.data [43, 79], .stall, .data [75, 13], .failure "reset", .data [10, 58, 55, 13, 10],
          .data []], []⟩
        readTimeout := some (.ofSeconds 2) }
    (connection.readFrames StreamScript.passing 5).1.map Except.toOption =
      [none, none, some .ok, some (.integer 7), none] := by
  decide +kernel

end Connection

end RedisCluster
