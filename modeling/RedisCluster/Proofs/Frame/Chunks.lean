import RedisCluster.Proofs.Frame.Parse

/-! A decoder's answers do not depend on the chunks in which the bytes arrive. -/

namespace RedisCluster.Decoder

variable {decoder after : Decoder}

/-- A frame at the front of the buffer is taken out of it. -/
theorem decode_of_done {frame : Frame} {rest : Bytes}
    (read : Frame.parse decoder.limit decoder.buffer = .done frame rest) :
    decoder.decode = (.ok (some frame), { decoder with buffer := rest }) := by
  rw [decode, read]

/-- Bytes that cannot be the front of a frame stay in the buffer. -/
theorem decode_of_failed {fault : DecodeError}
    (read : Frame.parse decoder.limit decoder.buffer = .failed fault) :
    decoder.decode = (.error fault, decoder) := by
  rw [decode, read]

/-- A buffer within the limit waits for the rest of its frame. -/
theorem decode_of_incomplete (read : Frame.parse decoder.limit decoder.buffer = .incomplete)
    (within : decoder.buffered ≤ decoder.limit) : decoder.decode = (.ok none, decoder) := by
  -- Bytes beyond the limit would be an error instead.
  have small : ¬ (decoder.buffer ≠ [] ∧ decoder.limit < decoder.buffered) := fun both =>
    absurd both.2 (by omega)
  simp only [decode, read, if_neg small]

/-- A buffer beyond the limit that holds no whole frame is an error. -/
theorem decode_of_oversize (read : Frame.parse decoder.limit decoder.buffer = .incomplete)
    (large : decoder.limit < decoder.buffered) :
    decoder.decode = (.error (.frameTooLarge decoder.buffered decoder.limit), decoder) := by
  -- An empty buffer is within every limit.
  have some_bytes : decoder.buffer ≠ [] := by
    intro none
    simp [buffered, none] at large
  simp only [decode, read]
  exact if_pos ⟨some_bytes, large⟩

/-- A decoder answers with a frame from the front of its buffer, or it leaves the buffer alone. -/
theorem decode_cases (decoder : Decoder) :
    (∃ frame rest, Frame.parse decoder.limit decoder.buffer = .done frame rest ∧
      decoder.decode = (.ok (some frame), { decoder with buffer := rest })) ∨
    (∃ fault, decoder.decode = (.error fault, decoder) ∧
      (Frame.parse decoder.limit decoder.buffer = .failed fault ∨
        decoder.limit < decoder.buffered)) ∨
    decoder.decode = (.ok none, decoder) := by
  cases read : Frame.parse decoder.limit decoder.buffer with
  | done frame rest => exact .inl ⟨frame, rest, rfl, decode_of_done read⟩
  | failed fault => exact .inr (.inl ⟨fault, decode_of_failed read, .inl rfl⟩)
  | incomplete =>
    -- The bytes are no frame and no error yet, so the limit decides.
    by_cases large : decoder.limit < decoder.buffered
    · exact .inr (.inl ⟨_, decode_of_oversize read large, .inr large⟩)
    · exact .inr (.inr (decode_of_incomplete read (by omega)))

/-- A frame that is taken out of a buffer stands at the front of it. -/
theorem parse_of_decode {frame : Frame} (taken : decoder.decode = (.ok (some frame), after)) :
    Frame.parse decoder.limit decoder.buffer = .done frame after.buffer ∧
      after = ⟨decoder.limit, after.buffer⟩ := by
  rcases decode_cases decoder with ⟨found, rest, read, answer⟩ | ⟨fault, answer, -⟩ | answer
  · rw [answer] at taken
    cases taken
    -- Only the first of the three answers is a frame.
    exact ⟨read, rfl⟩
  · rw [answer] at taken
    cases taken
  · rw [answer] at taken
    cases taken

/-- Without bytes there is nothing to drain. -/
theorem go_of_empty (empty : decoder.buffer = []) (bound : Nat) :
    drain.go bound decoder = ([], none, decoder) := by
  cases bound with
  | zero => rfl
  | succ bound =>
    have waits : decoder.decode = (.ok none, decoder) :=
      decode_of_incomplete (by rw [empty, Frame.parse_nil]) (by simp [buffered, empty])
    rw [drain.go, waits]

/-- As many steps as there are bytes are enough to drain them all. -/
theorem go_eq {bound other : Nat} (enough : decoder.buffered ≤ bound)
    (enoughToo : decoder.buffered ≤ other) : drain.go bound decoder = drain.go other decoder := by
  -- Every step but the last takes a frame and with it a byte, so the steps left stay enough.
  induction bound generalizing decoder other with
  | zero =>
    have empty : decoder.buffer = [] := List.length_eq_zero_iff.mp (Nat.le_zero.mp enough)
    rw [go_of_empty empty, go_of_empty empty]
  | succ bound ih =>
    cases other with
    | zero =>
      have empty : decoder.buffer = [] := List.length_eq_zero_iff.mp (Nat.le_zero.mp enoughToo)
      rw [go_of_empty empty, go_of_empty empty]
    | succ other =>
      rw [drain.go, drain.go]
      rcases decode_cases decoder with ⟨frame, rest, read, taken⟩ | ⟨fault, failed, _⟩ | waits
      -- A frame was taken, and the steps go on from the rest.
      · have fewer : rest.length < decoder.buffered := Frame.length_lt_of_parse read
        have same : drain.go bound { decoder with buffer := rest } =
            drain.go other { decoder with buffer := rest } :=
          ih (by simp only [buffered]; omega) (by simp only [buffered]; omega)
        -- An error and a wait end the drain for both.
        simp only [taken, same]
      · simp only [failed]
      · simp only [waits]

/-- One step more than there are bytes drains them all as well. -/
theorem drain_eq (decoder : Decoder) :
    decoder.drain = drain.go (decoder.buffered + 1) decoder :=
  go_eq (Nat.le_refl _) (Nat.le_succ _)

/-- A drain goes on behind every frame it takes. -/
theorem drain_of_done {frame : Frame} {rest : Bytes}
    (read : Frame.parse decoder.limit decoder.buffer = .done frame rest) :
    decoder.drain = (frame :: { decoder with buffer := rest }.drain.1,
      { decoder with buffer := rest }.drain.2) := by
  -- A frame makes up at least one of the steps that the bytes allow for.
  have fewer : rest.length ≤ decoder.buffered :=
    Nat.le_of_lt (Frame.length_lt_of_parse read)
  have same : drain.go decoder.buffered { decoder with buffer := rest } =
      { decoder with buffer := rest }.drain :=
    go_eq fewer (Nat.le_refl _)
  rw [drain_eq, drain.go, decode_of_done read]
  simp only [same]

/-- A drain ends at an error. -/
theorem drain_of_error {fault : DecodeError} (failed : decoder.decode = (.error fault, decoder)) :
    decoder.drain = ([], some fault, decoder) := by
  rw [drain_eq, drain.go, failed]

/-- A drain ends where more bytes are needed. -/
theorem drain_of_wait (waits : decoder.decode = (.ok none, decoder)) :
    decoder.drain = ([], none, decoder) := by
  rw [drain_eq, drain.go, waits]

/-- What holds of a decoder that takes nothing, and holds before a frame is taken if it does
afterwards, holds of every decoder. -/
theorem drain_induction {motive : Decoder → Prop}
    (fails : ∀ decoder fault, decoder.decode = (.error fault, decoder) → motive decoder)
    (waits : ∀ decoder, decoder.decode = (.ok none, decoder) → motive decoder)
    (takes : ∀ decoder frame rest, Frame.parse decoder.limit decoder.buffer = .done frame rest →
      motive { decoder with buffer := rest } → motive decoder) (decoder : Decoder) :
    motive decoder := by
  -- A frame takes at least one byte, so the buffer it leaves is the smaller case.
  generalize size : decoder.buffered = n
  induction n using Nat.strongRecOn generalizing decoder with
  | ind n ih =>
    rcases decode_cases decoder with ⟨frame, rest, read, _⟩ | ⟨fault, failed, _⟩ | idle
    -- The rest of the buffer is shorter.
    · have fewer : rest.length < decoder.buffered := Frame.length_lt_of_parse read
      exact takes decoder frame rest read (ih rest.length (by omega) _ rfl)
    · exact fails decoder fault failed
    · exact waits decoder idle

/-- A drain changes neither the limit nor the bytes it leaves, and it ends where the next answer is
its error or a wait. -/
theorem drain_ends (decoder : Decoder) :
    decoder.drain.2.2.limit = decoder.limit ∧ decoder.drain.2.2.buffer <:+ decoder.buffer ∧
      decoder.drain.2.2.decode =
        (match decoder.drain.2.1 with | some fault => .error fault | none => .ok none,
          decoder.drain.2.2) := by
  induction decoder using drain_induction with
  | fails decoder fault failed =>
    rw [drain_of_error failed]
    exact ⟨rfl, List.suffix_refl _, failed⟩
  | waits decoder waits =>
    rw [drain_of_wait waits]
    exact ⟨rfl, List.suffix_refl _, waits⟩
  | takes decoder frame rest read ih =>
    -- The frame is the front of the buffer, and the rest is drained as it would be on its own.
    obtain ⟨front, whole, _⟩ := (Frame.parse_frontOnly decoder.limit).taken read
    rw [drain_of_done read]
    exact ⟨ih.1, ih.2.1.trans ⟨front, whole⟩, ih.2.2⟩

/-- Draining before more bytes arrive takes the same frames as draining once they have. -/
theorem drain_append (decoder : Decoder) (more : Bytes) :
    (decoder.append more).drain =
      (decoder.drain.1 ++ (decoder.drain.2.2.append more).drain.1,
        (decoder.drain.2.2.append more).drain.2) := by
  induction decoder using drain_induction with
  -- Nothing has been taken, so both drain the same bytes.
  | fails decoder fault failed => rw [drain_of_error failed]; rfl
  | waits decoder waits => rw [drain_of_wait waits]; rfl
  | takes decoder frame rest read ih =>
    obtain ⟨front, whole, again⟩ := (Frame.parse_frontOnly decoder.limit).taken read
    -- The frame was read from the front alone, so the bytes behind it make no difference to it.
    have later : Frame.parse (decoder.append more).limit (decoder.append more).buffer =
        .done frame (rest ++ more) := by
      show Frame.parse decoder.limit (decoder.buffer ++ more) = .done frame (rest ++ more)
      rw [← whole, List.append_assoc]
      exact again (rest ++ more)
    rw [drain_of_done read, drain_of_done later]
    exact congrArg (fun drained => (frame :: drained.1, drained.2)) ih

/-- An error stays the answer whatever is appended within the limit. -/
theorem decode_append_of_error {fault : DecodeError} (failed : decoder.decode = (.error fault, after))
    {more : Bytes} (within : (decoder.append more).buffered ≤ decoder.limit) :
    (decoder.append more).decode = (.error fault, decoder.append more) := by
  rcases decode_cases decoder with ⟨frame, rest, _, taken⟩ | ⟨found, again, read | large⟩ | waits
  · -- A frame is no error.
    rw [taken] at failed
    cases failed
  · rw [again] at failed
    cases failed
    -- The bytes in the buffer cannot begin a frame, whatever follows them.
    exact decode_of_failed ((Frame.parse_frontOnly decoder.limit).judged read more)
  · -- What was too large before is too large with more bytes.
    simp only [buffered, append, List.length_append] at within large
    omega
  -- A wait is no error.
  · rw [waits] at failed
    cases failed

/-- Appends chunks one after the other, and takes out whole frames after each. -/
def feed (decoder : Decoder) : List Bytes → List Frame × Option DecodeError × Decoder
  | [] => ([], none, decoder)
  | chunk :: rest =>
    let (frames, error, after) := (decoder.append chunk).drain
    let (more, later, last) := feed after rest
    (frames ++ more, error <|> later, last)

/-- The first chunk is drained before the others arrive. -/
theorem feed_cons (decoder : Decoder) (chunk : Bytes) (rest : List Bytes) :
    decoder.feed (chunk :: rest) =
      ((decoder.append chunk).drain.1 ++ ((decoder.append chunk).drain.2.2.feed rest).1,
        (decoder.append chunk).drain.2.1 <|> ((decoder.append chunk).drain.2.2.feed rest).2.1,
        ((decoder.append chunk).drain.2.2.feed rest).2.2) :=
  rfl

/-- An error that a drain ends with is the end of any drain after it within the limit. -/
theorem drain_append_of_error {fault : DecodeError} (failed : decoder.drain.2.1 = some fault)
    {more : Bytes} (within : (decoder.append more).buffered ≤ decoder.limit) :
    (decoder.drain.2.2.append more).drain = ([], some fault, decoder.drain.2.2.append more) := by
  obtain ⟨limit, left, ends⟩ := drain_ends decoder
  simp only [failed] at ends
  refine drain_of_error (decode_append_of_error ends ?_)
  -- What is left of the buffer is no longer than it was, so the limit holds for it, too.
  have fewer := left.length_le
  simp only [buffered, append, List.length_append] at within ⊢
  omega

/-- Chunks that stay within the limit give what they give as one. -/
theorem feed_eq_drain (decoder : Decoder) (chunk : Bytes) (rest : List Bytes)
    (within : (decoder.append (chunk :: rest).flatten).buffered ≤ decoder.limit) :
    decoder.feed (chunk :: rest) = (decoder.append (chunk :: rest).flatten).drain := by
  induction rest generalizing decoder chunk with
  -- A single chunk is drained as it is.
  | nil => simp [feed]
  | cons next rest ih =>
    obtain ⟨limit, left, _⟩ := drain_ends (decoder.append chunk)
    have whole : decoder.append (chunk :: next :: rest).flatten =
        (decoder.append chunk).append (next :: rest).flatten := by
      simp [append, List.append_assoc]
    rw [whole] at within ⊢
    -- What the first chunk leaves is no longer than what came in, so the bound holds for the rest.
    have later := ih (decoder.append chunk).drain.2.2 next (by
      have fewer := left.length_le
      simp only [buffered, append, List.length_append] at within limit fewer ⊢
      omega)
    rw [feed_cons, later, drain_append (decoder.append chunk)]
    cases error : (decoder.append chunk).drain.2.1 with
    -- Without an error the rest is drained behind the first chunk.
    | none => rfl
    | some fault =>
      -- The error of the first chunk ends the drain of everything, too.
      rw [drain_append_of_error error within]
      simp

/-- What is fed to an empty decoder within its limit is drained as a whole. -/
theorem feed_eq_drain_flatten {limit : Nat} {chunks : List Bytes}
    (fits : chunks.flatten.length ≤ limit) :
    feed ⟨limit, []⟩ chunks = (⟨limit, chunks.flatten⟩ : Decoder).drain := by
  cases chunks with
  -- Nothing is fed, and nothing is drained.
  | nil => rfl
  | cons chunk rest => exact feed_eq_drain ⟨limit, []⟩ chunk rest fits

/-- From an empty buffer nothing is drained. -/
theorem drain_nil (limit : Nat) : (⟨limit, []⟩ : Decoder).drain = ([], none, ⟨limit, []⟩) :=
  go_of_empty rfl _

/-- Chunks without bytes change nothing. -/
theorem feed_of_no_bytes {limit : Nat} {chunks : List Bytes} (empty : chunks.flatten = []) :
    feed ⟨limit, []⟩ chunks = ([], none, ⟨limit, []⟩) := by
  rw [feed_eq_drain_flatten (by simp [empty]), empty, drain_nil]

/-- The bytes of one frame are drained as this frame. -/
theorem drain_of_parse {limit : Nat} {bytes : Bytes} {frame : Frame}
    (read : Frame.parse limit bytes = .done frame []) :
    (⟨limit, bytes⟩ : Decoder).drain = ([frame], none, ⟨limit, []⟩) := by
  have taken : (⟨limit, bytes⟩ : Decoder).drain =
      (frame :: (⟨limit, []⟩ : Decoder).drain.1, (⟨limit, []⟩ : Decoder).drain.2) :=
    drain_of_done read
  rw [taken, drain_nil]

/-- Bytes of a frame that lacks the last of them are left as they are, which is an error if they
exceed the limit. -/
theorem drain_of_incomplete {limit : Nat} {bytes : Bytes}
    (read : Frame.parse limit bytes = .incomplete) :
    (⟨limit, bytes⟩ : Decoder).drain =
      ([], if limit < bytes.length then some (.frameTooLarge bytes.length limit) else none,
        ⟨limit, bytes⟩) := by
  split
  · rename_i large
    exact drain_of_error (decode_of_oversize read large)
  · rename_i small
    exact drain_of_wait (decode_of_incomplete read (Nat.not_lt.1 small))

/-- How many of some bytes have come when they first exceed the limit with others still to come;
some had come before. -/
def overrun? (limit : Nat) : Nat → List Bytes → Option Nat
  | _, [] => none
  | before, chunk :: rest =>
    if rest.flatten = [] then none
    else if limit < before + chunk.length then some (before + chunk.length)
    else overrun? limit (before + chunk.length) rest

/-- Bytes that are within the limit as a whole never exceed it. -/
theorem overrun?_of_fits {limit before : Nat} {chunks : List Bytes}
    (fits : before + chunks.flatten.length ≤ limit) : overrun? limit before chunks = none := by
  induction chunks generalizing before with
  | nil => rfl
  | cons chunk rest ih =>
    -- So much had come before this chunk, and so much comes with it.
    rw [List.flatten_cons, List.length_append] at fits
    rw [overrun?, ih (by omega), if_neg (by omega : ¬ limit < before + chunk.length), ite_self]

/-- The bytes of a frame, of which some have come, give the frame once the others are there. The
first part of them that exceeds the limit while bytes are missing comes to an error. -/
theorem feed_remaining {limit : Nat} {front : Bytes} {frame : Frame} {chunks : List Bytes}
    (lacks : chunks.flatten ≠ [])
    (read : Frame.parse limit (front ++ chunks.flatten) = .done frame []) :
    feed ⟨limit, front⟩ chunks =
      ([frame], (overrun? limit front.length chunks).map (.frameTooLarge · limit),
        ⟨limit, []⟩) := by
  -- What has come grows with each chunk, until a chunk brings the last byte.
  induction chunks generalizing front with
  | nil => exact absurd rfl lacks
  | cons chunk rest ih =>
    rw [List.flatten_cons, ← List.append_assoc] at read
    rw [feed_cons, overrun?]
    by_cases last : rest.flatten = []
    · -- This chunk completes the frame, and no byte comes after it.
      rw [last, List.append_nil] at read
      rw [if_pos last]
      simp only [append, drain_of_parse read, feed_of_no_bytes last, List.append_nil]
      rfl
    · -- The frame is still not whole, so nothing is taken.
      have part := drain_of_incomplete (Frame.parse_incomplete last read)
      simp only [append, part, ih last read, if_neg last, List.nil_append, List.length_append]
      -- What has come may exceed the limit by now.
      split <;> rfl

/-- The bytes of one frame give this frame however they are cut, whatever the limit, and nothing is
left of them. An error comes up only where they exceed the limit with others of them to come. -/
theorem feed_of_parse {limit : Nat} {bytes : Bytes} {frame : Frame}
    (read : Frame.parse limit bytes = .done frame []) {chunks : List Bytes}
    (cut : chunks.flatten = bytes) :
    feed ⟨limit, []⟩ chunks =
      ([frame], (overrun? limit 0 chunks).map (.frameTooLarge · limit), ⟨limit, []⟩) := by
  subst cut
  have some_bytes : chunks.flatten ≠ [] := by
    intro none
    rw [none, Frame.parse_nil] at read
    cases read
  -- At the start nothing has come.
  have whole : Frame.parse limit ([] ++ chunks.flatten) = .done frame [] := read
  exact feed_remaining some_bytes whole

/-- A frame taken is the front of the buffer, and nothing less is a frame. -/
theorem decode_takes {frame : Frame} (taken : decoder.decode = (.ok (some frame), after)) :
    ∃ front, decoder.buffer = front ++ after.buffer ∧ after.limit = decoder.limit ∧
      decode ⟨decoder.limit, front⟩ = (.ok (some frame), ⟨decoder.limit, []⟩) ∧
      ∀ part missing, front = part ++ missing → missing ≠ [] → part.length ≤ decoder.limit →
        decode ⟨decoder.limit, part⟩ = (.ok none, ⟨decoder.limit, part⟩) := by
  obtain ⟨read, same⟩ := parse_of_decode taken
  obtain ⟨front, whole, again⟩ := (Frame.parse_frontOnly decoder.limit).taken read
  -- With nothing behind it the front is read as it was in the buffer.
  have alone : Frame.parse decoder.limit front = .done frame [] := by
    have read_again := again []
    rwa [List.append_nil] at read_again
  refine ⟨front, whole.symm, by rw [same], decode_of_done alone, ?_⟩
  rintro part missing rfl lacks short
  -- A front that lacks bytes would leave some over, had it been a frame.
  exact decode_of_incomplete (Frame.parse_incomplete lacks alone) short

/-- Only a frame leaves the buffer. -/
theorem decode_keeps (decoder : Decoder) (none_taken : ∀ frame, decoder.decode.1 ≠ .ok (some frame)) :
    decoder.decode.2 = decoder := by
  -- A frame would have left.
  rcases decode_cases decoder with ⟨frame, rest, _, answer⟩ | ⟨fault, answer, _⟩ | answer
  · exact absurd (congrArg Prod.fst answer) (none_taken frame)
  · rw [answer]
  · rw [answer]

/-- Cutting bytes into chunks changes nothing of what is decoded from them: not the frames, not the
error and not the bytes left over. Decoding takes the bytes of the frame it gives and no others, and
an error stays the answer whatever is appended within the limit. -/
theorem decoding_ignores_chunks (limit : Nat) (bytes : Bytes) (fits : bytes.length ≤ limit) :
    (∀ chunks : List Bytes, chunks.flatten = bytes →
      feed ⟨limit, []⟩ chunks = feed ⟨limit, []⟩ [bytes]) ∧
    ∀ decoder : Decoder,
      match decoder.decode with
      | (.ok (some frame), after) =>
        ∃ front, decoder.buffer = front ++ after.buffer ∧ after.limit = decoder.limit ∧
          decode ⟨decoder.limit, front⟩ = (.ok (some frame), ⟨decoder.limit, []⟩) ∧
          ∀ part missing, front = part ++ missing → missing ≠ [] → part.length ≤ decoder.limit →
            decode ⟨decoder.limit, part⟩ = (.ok none, ⟨decoder.limit, part⟩)
      | (.ok none, after) => after = decoder
      | (.error fault, after) =>
        after = decoder ∧ ∀ more, (decoder.append more).buffered ≤ decoder.limit →
          (decoder.append more).decode = (.error fault, decoder.append more) := by
  constructor
  · rintro chunks rfl
    -- However they are cut, the bytes are drained as a whole.
    have whole : [chunks.flatten].flatten = chunks.flatten := by simp
    rw [feed_eq_drain_flatten fits, feed_eq_drain_flatten (by rw [whole]; exact fits), whole]
  · intro decoder
    -- What decoding leaves in the buffer depends on its answer.
    have keeps := decode_keeps decoder
    split
    -- A frame was taken.
    · rename_i frame after taken
      exact decode_takes taken
    -- More bytes are needed.
    · rename_i after waits
      rw [waits] at keeps
      exact keeps (fun frame => by simp)
    -- The bytes are in error.
    · rename_i fault after failed
      rw [failed] at keeps
      exact ⟨keeps (fun frame => by simp), fun more within => decode_append_of_error failed within⟩

/-- Bytes cut within a numeral, within a line end and behind a frame that cannot be one. -/
theorem decoding_ignores_cuts :
    feed ⟨16, []⟩ [[58, 52], [], [50, 13], [10, 43, 255], [13, 10, 36]] =
      ([.integer 42], some .invalidText, ⟨16, [43, 255, 13, 10, 36]⟩) :=
  ((decoding_ignores_chunks 16 [58, 52, 50, 13, 10, 43, 255, 13, 10, 36] (by decide)).1 _ rfl).trans
    (by rfl)

end RedisCluster.Decoder
