import Mathlib.Data.List.Forall2
import RedisCluster.Connection

/-! Frames written one after the other: what the stream accepts during each call, also where calls
fail. -/

namespace RedisCluster

namespace Connection

variable {σ : Type} {stream : Stream σ} {connection : Connection σ}

/-- What a stream may have accepted of some bytes once their write has come to a result: all of them
if it succeeded, and otherwise a front of them that lacks some. -/
def Accepts (bytes : Bytes) : Except Halt Unit → Bytes → Prop
  | .ok (), accepted => accepted = bytes
  | .error _, accepted => accepted <+: bytes ∧ accepted ≠ bytes

/-- A write that fails may have been in vain, unless there was nothing to write. -/
theorem accepts_nothing {bytes : Bytes} (some_bytes : bytes ≠ []) (halt : Halt) :
    Accepts bytes (.error halt) [] :=
  ⟨List.nil_prefix, some_bytes.symm⟩

/-- What is accepted behind a part of the bytes is accepted of all of them. -/
theorem Accepts.behind {front rest accepted : Bytes} {result : Except Halt Unit}
    (accepts : Accepts rest result accepted) : Accepts (front ++ rest) result (front ++ accepted) := by
  cases result with
  | ok _ => exact congrArg (front ++ ·) accepts
  | error halt =>
    -- What is accepted behind the front is still a front of the whole, and still lacks what it
    -- lacked.
    exact ⟨(List.prefix_append_right_inj front).2 accepts.1,
      fun same => accepts.2 (List.append_cancel_left same)⟩

/-- A write adds what the stream accepts to what it has accepted before, and touches nothing else. -/
theorem writeAll_accepts (stream : Stream σ) (connection : Connection σ) (bytes : Bytes) :
    ∃ after accepted, (connection.writeAll stream bytes).2 =
        { connection with stream := after, written := connection.written ++ accepted } ∧
      Accepts bytes (connection.writeAll stream bytes).1 accepted := by
  -- Nothing is left, the stream stalls, fails or takes nothing, or it takes a part.
  fun_induction writeAll stream connection bytes with
  | case1 connection bytes empty =>
    -- There was nothing to write, and nothing is all that was accepted.
    exact ⟨connection.stream, [], by rw [List.append_nil], (List.isEmpty_iff.1 empty).symm⟩
  | case2 connection bytes some_bytes after
  | case3 connection bytes some_bytes after
  | case4 connection bytes some_bytes after =>
    exact ⟨after, [], by rw [List.append_nil], accepts_nothing (by simpa using some_bytes) _⟩
  | case5 connection bytes _ after _ count _ ih =>
    -- What is accepted of the rest comes behind the part that was taken.
    obtain ⟨last, accepted, same, accepts⟩ := ih
    refine ⟨last, bytes.take (count + 1) ++ accepted, ?_, ?_⟩
    · rw [same, ← List.append_assoc]
      rfl
    · nth_rewrite 1 [← List.take_append_drop (count + 1) bytes]
      exact accepts.behind

/-- A frame is written byte for byte if nothing has been collected before it. -/
theorem writeFrame_of_rested (rested : connection.encoder = {}) (frame : Frame) :
    connection.writeFrame stream frame = connection.writeAll stream frame.encode := by
  -- What has been collected before is nothing, so the frame is all that is to be written.
  have collected : connection.encoder.encode frame = ⟨frame.encode⟩ := by rw [rested]; rfl
  have unchanged : { connection with encoder := ⟨[]⟩ } = connection := by rw [← rested]
  simp only [writeFrame, collected, Encoder.take, unchanged]

/-- A call writes its own frame only, and leaves nothing behind that a later call would write. -/
theorem writeFrame_accepts (stream : Stream σ) (rested : connection.encoder = {}) (frame : Frame) :
    ∃ after accepted, (connection.writeFrame stream frame).2 =
        { connection with stream := after, written := connection.written ++ accepted } ∧
      Accepts frame.encode (connection.writeFrame stream frame).1 accepted := by
  rw [writeFrame_of_rested rested]
  exact writeAll_accepts stream connection frame.encode

/-- Writes frames one after the other, whether the calls succeed or not. Each call is noted with its
result and with the bytes that the stream accepted during it. -/
def writeFrames (stream : Stream σ) (connection : Connection σ) :
    List Frame → List (Except Halt Unit × Bytes) × Connection σ
  | [] => ([], connection)
  | frame :: rest =>
    let (result, after) := connection.writeFrame stream frame
    let (calls, last) := writeFrames stream after rest
    ((result, after.written.drop connection.written.length) :: calls, last)

/-- On any stream, whatever it takes of the bytes at a time and wherever it fails or stalls, a call
that succeeds has had exactly its own frame accepted, and a call that fails a front of its own frame
that lacks some bytes. These are all the bytes that are accepted, so nothing of a frame is written by a
later call, and nothing is left to be written. -/
theorem frames_written_apart (stream : Stream σ) (connection : Connection σ) (frames : List Frame)
    (rested : connection.encoder = {}) :
    let run := connection.writeFrames stream frames
    List.Forall₂ (fun frame call => Accepts frame.encode call.1 call.2) frames run.1 ∧
      run.2.written = connection.written ++ (run.1.map Prod.snd).flatten ∧ run.2.encoder = {} := by
  -- Every call finds the encoder as empty as the first one did.
  induction frames generalizing connection with
  | nil => exact ⟨.nil, by simp [writeFrames], rested⟩
  | cons frame rest ih =>
    -- The first call accepts its own bytes, and leaves a rested connection to the others.
    obtain ⟨after, accepted, same, accepts⟩ := writeFrame_accepts stream rested frame
    obtain ⟨others, total, idle⟩ := ih (connection.writeFrame stream frame).2 (by rw [same]; exact rested)
    have during : (connection.writeFrame stream frame).2.written.drop connection.written.length =
        accepted := by
      rw [same, List.drop_left]
    simp only [writeFrames, during]
    refine ⟨.cons accepts others, ?_, idle⟩
    rw [total, same]
    simp

/-- The first frame is lost to an error behind two bytes and the second one gets through in two parts;
then the stream takes nothing of the third one, and it stalls behind one byte of the last. -/
theorem frames_written_apart_past_failures :
    let connection : Connection StreamScript :=
      { stream := ⟨[], [.accepts 2, .failure "broken pipe", .accepts 3, .accepts 9, .accepts 0,
          .accepts 1, .stall]⟩
        writeTimeout := some (.ofSeconds 2) }
    let frames : List Frame := [.integer 7, .simple "a", .null, .integer 7]
    let run := connection.writeFrames StreamScript.stream frames
    run.1.map (fun call => (call.1.isOk, call.2)) =
        [(false, [58, 55]), (true, [43, 97, 13, 10]), (false, []), (false, [58])] ∧
      List.Forall₂ (fun frame call => Accepts frame.encode call.1 call.2) frames run.1 ∧
      run.2.written = [58, 55, 43, 97, 13, 10, 58] ∧ run.2.encoder = {} := by
  intro connection frames run
  -- The results and bytes of the four calls are computed; the theorem says what they amount to.
  have calls : run.1.map (fun call => (call.1.isOk, call.2)) =
      [(false, [58, 55]), (true, [43, 97, 13, 10]), (false, []), (false, [58])] := by
    decide +kernel
  obtain ⟨each, total, idle⟩ := frames_written_apart StreamScript.stream connection frames rfl
  have bytes : run.1.map Prod.snd = [[58, 55], [43, 97, 13, 10], [], [58]] := by
    simpa [List.map_map, Function.comp_def] using congrArg (List.map Prod.snd) calls
  exact ⟨calls, each, by rw [total, bytes]; rfl, idle⟩

end Connection

end RedisCluster
