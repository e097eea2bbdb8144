import RedisCluster.Frame.Cursor
import RedisCluster.Proofs.Frame.Grammar

/-! Reading a frame at a place in a buffer never leaves the buffer and never exceeds a machine word,
and it takes no more calls than there are bytes. -/

namespace RedisCluster

/-- What is made of a result is made of a value. -/
theorem of_map_eq_ok {ε α β : Type} {result : Except ε α} {make : α → β} {made : β}
    (mapped : result.map make = .ok made) : ∃ value, result = .ok value ∧ make value = made := by
  cases result with
  | error fault => cases mapped
  | ok value => exact ⟨value, rfl, Except.ok.inj mapped⟩

namespace Frame

mutual

/-- The number of frames that a frame is made of, itself included. -/
def nodes : Frame → Nat
  | array items => 1 + nodesAll items
  | simple _ | error _ | integer _ | bulk _ | null => 1

/-- The number of frames that all of these frames are made of. -/
def nodesAll : List Frame → Nat
  | [] => 0
  | item :: rest => nodes item + nodesAll rest

end

/-- A frame is made of one frame at least. -/
theorem nodes_pos (frame : Frame) : 0 < frame.nodes := by
  cases frame with
  | array items => exact Nat.lt_of_lt_of_le Nat.one_pos (Nat.le_add_right _ _)
  | _ => exact Nat.one_pos

/-- A length that a header announces is below the greatest number of 64 bits with a sign. -/
theorem lt_of_readLength {limit length : Nat} {line : Bytes}
    (announced : readLength limit line = .ok (some length)) : length < 2 ^ 63 := by
  obtain ⟨value, -, same, -⟩ := readLength_eq_some_iff.1 announced
  exact length_lt_of_toInt same

/-- What a first line can say: a frame that is a line alone, or a length that can be announced. -/
def Head.Sound : Head → Prop
  | whole frame => frame.nodes = 1
  | payload length => length < 2 ^ 63
  | items count => count < 2 ^ 63

/-- A first line says nothing else. -/
theorem readHead_sound {limit : Nat} {marker : UInt8} {line : Bytes} {head : Head}
    (read : readHead limit marker line = .ok head) : head.Sound := by
  unfold readHead at read
  -- The kinds of lines, in the order of the markers.
  split at read
  · obtain ⟨text, -, rfl⟩ := of_map_eq_ok read
    rfl
  · obtain ⟨text, -, rfl⟩ := of_map_eq_ok read
    rfl
  · obtain ⟨value, -, rfl⟩ := of_map_eq_ok read
    rfl
  -- A payload that is null is a whole frame.
  · obtain ⟨_ | length, found, rfl⟩ := of_map_eq_ok read
    · rfl
    · exact lt_of_readLength found
  -- So is an array that is null.
  · obtain ⟨_ | count, found, rfl⟩ := of_map_eq_ok read
    · rfl
    · exact lt_of_readLength found
  · cases read

/-- The first line decides how a frame is read on. -/
theorem parseWithin_of_line {limit depth : Nat} {marker : UInt8} {body line rest : Bytes}
    (split : splitLine? body = some (line, rest)) :
    parseWithin limit (depth + 1) (marker :: body) =
      match readHead limit marker line with
      | .error fault => .failed fault
      | .ok (.whole frame) => .done frame rest
      | .ok (.payload length) =>
        (readPayload length rest).andThen fun payload => .done (.bulk (some payload))
      | .ok (.items count) =>
        (Parsed.replicate (parseWithin limit depth) count rest).andThen fun items =>
          .done (.array items) := by
  rw [parseWithin, split, readHead]
  dsimp only
  generalize Char.ofNat marker.toNat = kind
  split
  -- A line is read alike, and so is a length; only the result is put differently.
  · cases readText line <;> rfl
  · cases readText line <;> rfl
  · cases readInteger line <;> rfl
  · rcases readLength limit line with fault | _ | length
    · rfl
    · rfl
    · cases took : readPayload length rest <;> simp [took, Except.map, Parsed.andThen]
  · rcases readLength limit line with fault | _ | count
    · rfl
    · rfl
    · cases took : Parsed.replicate (parseWithin limit depth) count rest <;>
        simp [took, Except.map, Parsed.andThen]
  · -- No other marker begins a frame.
    simp only [*]

end Frame

namespace Cursor

variable {α β : Type} {buffer : Bytes} {place : Nat}

/-- A reading goes as the bytes from its place on are read, and keeps to the buffer. A value costs a
number of calls, for each of which it took three bytes at least; and without a value there is no more
than one call beside those with a byte of their own. -/
inductive Keeps (costs : α → Nat → Prop) (buffer : Bytes) (place : Nat) :
    Parsed α → Reading α place → Prop
  | done {value : α} {rest : Bytes} {calls next : Nat} {ahead : place ≤ next}
      (left : rest = buffer.drop next) (inside : next ≤ buffer.length)
      (cost : costs value calls) (room : 3 * calls ≤ next - place) :
      Keeps costs buffer place (.done value rest) (.done calls value next ahead)
  | incomplete {calls : Nat} (few : calls ≤ buffer.length - place + 1) :
      Keeps costs buffer place .incomplete (.incomplete calls)
  | failed {calls : Nat} {error : DecodeError} (few : calls ≤ buffer.length - place + 1) :
      Keeps costs buffer place (.failed error) (.failed calls error)

namespace Keeps

variable {costs : α → Nat → Prop} {total : β → Nat → Prop} {parsed : Parsed α}

/-- A value that takes no bytes costs no call. -/
theorem here {value : α} (free : costs value 0) (inside : place ≤ buffer.length) :
    Keeps costs buffer place (.done value (buffer.drop place)) (.here value) :=
  .done rfl inside free (Nat.zero_le _)

/-- What is read behind a value costs as much more as was not spent on the value. -/
theorem andThen {reading : Reading α place} {then_parsed : α → Bytes → Parsed β}
    {then_reading : (value : α) → (next : Nat) → place ≤ next → Reading β next}
    (first : Keeps costs buffer place parsed reading)
    (second : ∀ value calls next ahead, costs value calls → next ≤ buffer.length →
      Keeps (fun made more => total made (calls + more)) buffer next
        (then_parsed value (buffer.drop next)) (then_reading value next ahead)) :
    Keeps total buffer place (parsed.andThen then_parsed) (reading.andThen then_reading) := by
  -- A reading that has no value yet is the end of both.
  cases first with
  | incomplete few => exact .incomplete few
  | failed few => exact .failed few
  | @done value _ calls next ahead left inside cost room =>
    subst left
    dsimp only [Parsed.andThen, Reading.andThen]
    have later := second value calls next ahead cost inside
    generalize then_parsed value (buffer.drop next) = parsed at later ⊢
    generalize then_reading value next ahead = reading at later ⊢
    -- The bytes of the value pay for its calls, and those behind it for the others.
    cases later with
    | incomplete few => exact .incomplete (by omega)
    | failed few => exact .failed (by omega)
    | done left within cost space => exact .done left within cost (by omega)

/-- A frame costs one call more than what is read behind its first line, which pays for this call. -/
theorem behind_line {start next : Nat} {reading : Reading α next} (begins : place ≤ start)
    (ahead : start ≤ next) (paid : place + 3 ≤ next) (inside : next ≤ buffer.length)
    (keeps : Keeps (fun value calls => costs value (calls + 1)) buffer next parsed reading) :
    Keeps costs buffer place parsed
      (((reading.since ahead).after 0).since begins |>.after 1) := by
  -- The call is paid for by the bytes of the line, so the others keep what they have.
  cases keeps with
  | incomplete few => exact .incomplete (by omega)
  | failed few => exact .failed (by omega)
  | done left within cost space =>
    exact .done left within (by rwa [Nat.zero_add, Nat.add_comm]) (by omega)

end Keeps

/-- A sum within a machine word is computed. -/
theorem add_of_lt {left right : Nat} (fits : left + right < 2 ^ 64) :
    add left right = .ok ⟨left + right, rfl⟩ :=
  if_pos fits

/-- A slice within the buffer is taken. -/
theorem slice_of_le {start stop : Nat} (order : start ≤ stop) (inside : stop ≤ buffer.length) :
    slice buffer start stop = .ok ((buffer.drop start).take (stop - start)) :=
  if_pos ⟨order, inside⟩

/-- The first line end is where the first line ends. -/
theorem lineEnd?_eq (bytes : Bytes) :
    lineEnd? bytes = (splitLine? bytes).map fun found => found.1.length := by
  induction bytes with
  | nil => rfl
  | cons byte rest ih =>
    rw [lineEnd?, splitLine?]
    split
    · rfl
    · rw [ih]
      cases splitLine? rest <;> rfl

/-- Without a line end there is no line. -/
theorem lineAt_of_none {start : Nat} (split : splitLine? (buffer.drop start) = none) :
    lineAt buffer start = .incomplete 0 := by
  rw [lineAt, lineEnd?_eq, split]
  -- Neither bytes that are all read nor bytes without a line end have a line.
  exact ite_self _

/-- A line is read with its line end, and both are in the buffer. -/
theorem lineAt_of_some (short : buffer.length < 2 ^ 62) {start : Nat} {line rest : Bytes}
    (split : splitLine? (buffer.drop start) = some (line, rest)) :
    ∃ next ahead, lineAt buffer start = .done 0 line next ahead ∧ start + 2 ≤ next ∧
      next ≤ buffer.length ∧ rest = buffer.drop next := by
  obtain ⟨whole, -⟩ := splitLine?_eq_some split
  have size := congrArg List.length whole
  simp only [List.length_append, List.length_drop, crlf, List.length_cons, List.length_nil] at size
  -- The line is what stands before its end.
  have taken : (buffer.drop start).take line.length = line := by
    rw [← whole, List.append_assoc, List.take_left]
  have left : rest = buffer.drop (start + line.length + 2) := by
    have behind : (buffer.drop start).drop (line ++ crlf).length = rest := by
      rw [← whole, List.drop_left]
    rw [← behind, List.drop_drop, List.length_append, ← Nat.add_assoc]
    rfl
  -- The line and its two bytes of line end come before the next place.
  refine ⟨start + line.length + 2, by omega, ?_, by omega, by omega, left⟩
  have cut : slice (buffer.drop start) 0 line.length = .ok line := by
    rw [slice_of_le (Nat.zero_le _) (by rw [List.length_drop]; omega), List.drop_zero, Nat.sub_zero,
      taken]
  -- All places are within the buffer, which is short.
  have stop_fits : start + line.length < 2 ^ 64 := by omega
  have next_fits : start + line.length + 2 < 2 ^ 64 := by omega
  rw [lineAt, if_neg (by omega), lineEnd?_eq, split]
  simp only [Option.map_some, Option.elim_some, cut, Reading.check, add_of_lt stop_fits,
    add_of_lt next_fits]

/-- A payload is read with its line end, and both are in the buffer. The sums cannot exceed a machine
word, whatever length is announced. -/
theorem payloadAt_keeps (short : buffer.length < 2 ^ 62) {length start : Nat}
    (announced : length < 2 ^ 63) (begins : start ≤ buffer.length) :
    Keeps (fun _ calls => calls = 0) buffer start (Frame.readPayload length (buffer.drop start))
      (payloadAt buffer length start) := by
  -- A length that is announced is less than half of a machine word, and the buffer is short.
  have room : start + length < 2 ^ 64 := by omega
  have more : start + length + 2 < 2 ^ 64 := by omega
  simp only [payloadAt, Frame.readPayload, add_of_lt room, add_of_lt more, Reading.check,
    List.length_drop]
  -- Some bytes are missing, or payload and line end are both there.
  by_cases lacks : buffer.length < start + length + 2
  · rw [if_pos lacks, if_pos (by omega)]
    exact .incomplete (Nat.zero_le _)
  · rw [if_neg lacks, if_neg (by omega)]
    have ending : slice buffer (start + length) (start + length + 2) =
        .ok (((buffer.drop start).drop length).take 2) := by
      rw [slice_of_le (by omega) (by omega), List.drop_drop, Nat.add_sub_cancel_left]
    have payload : slice buffer start (start + length) = .ok ((buffer.drop start).take length) := by
      rw [slice_of_le (by omega) (by omega), Nat.add_sub_cancel_left]
    simp only [ending, payload]
    -- The two bytes behind the payload are a line end, or the frame is in error.
    by_cases ends : ((buffer.drop start).drop length).take 2 = crlf
    · rw [if_pos ends, if_neg (not_not.2 ends)]
      exact .done (by rw [List.drop_drop, Nat.add_assoc]) (by omega) rfl (by omega)
    · rw [if_neg ends, if_pos ends]
      exact .failed (Nat.zero_le _)

/-- What is read in a row keeps to the buffer if each of the frames does. -/
theorem framesAt_keeps {limit : Nat} {reader : Bytes → Parsed Frame} {first : Nat}
    (keeps : ∀ place, first ≤ place → Keeps (fun frame calls => calls = frame.nodes) buffer place
      (reader (buffer.drop place)) (frameAt limit buffer place))
    (count : Nat) (behind : first ≤ place) (begins : place ≤ buffer.length) :
    Keeps (fun items calls => calls = Frame.nodesAll items) buffer place
      (Parsed.replicate reader count (buffer.drop place)) (framesAt limit buffer count place) := by
  -- Each frame begins where the one before it has ended.
  induction count generalizing place with
  | zero =>
    rw [framesAt]
    exact .here rfl begins
  | succ count ih =>
    rw [framesAt]
    simp only [Parsed.replicate_succ]
    refine (keeps place behind).andThen fun item calls next ahead cost inside => ?_
    refine (ih (Nat.le_trans behind ahead) inside).andThen fun items more last _ others within => ?_
    exact .here (by rw [cost, others]; rfl) within

/-- What is read at a place goes by the bytes from there on, keeps to the buffer and takes few calls.
The items of an array begin behind it, where one level of nesting less is possible. -/
theorem frameAt_keeps (short : buffer.length < 2 ^ 62) (limit : Nat) {depth : Nat}
    (enough : buffer.length - place ≤ depth) :
    Keeps (fun frame calls => calls = frame.nodes) buffer place
      (Frame.parseWithin limit depth (buffer.drop place)) (frameAt limit buffer place) := by
  induction depth generalizing place with
  | zero =>
    -- At the end of the buffer there is no frame.
    rw [frameAt, dif_neg (by omega)]
    exact .incomplete (by omega)
  | succ depth ih =>
    rw [frameAt]
    by_cases inside : place < buffer.length
    · rw [dif_pos inside, List.drop_eq_getElem_cons inside]
      simp only [add_of_lt (by omega : place + 1 < 2 ^ 64), Reading.check]
      -- The line begins behind the marker.
      cases split : splitLine? (buffer.drop (place + 1)) with
      | none =>
        rw [lineAt_of_none split, Frame.parseWithin, split]
        exact .incomplete (by omega)
      | some found =>
        obtain ⟨line, rest⟩ := found
        obtain ⟨next, ahead, read, behind, within, rfl⟩ := lineAt_of_some short split
        rw [read, Frame.parseWithin_of_line split]
        refine .behind_line _ ahead (by omega) within ?_
        dsimp only
        -- The first line is the whole frame, or a payload or items come behind it.
        cases said : Frame.readHead limit buffer[place] line with
        | error fault => exact .failed (Nat.zero_le _)
        | ok head =>
          have sound := Frame.readHead_sound said
          cases head with
          | whole frame => exact .here sound.symm within
          | payload length =>
            refine (payloadAt_keeps short sound within).andThen fun payload _ last _ free inside => ?_
            exact .here (by rw [free]; rfl) inside
          | items count =>
            refine (framesAt_keeps (fun later begins => ih (by omega)) count (Nat.le_refl next)
              within).andThen fun items calls last _ cost inside => ?_
            exact .here (by rw [cost]; exact Nat.add_comm _ _) inside
    -- Beyond the end there is nothing to read.
    · rw [dif_neg inside, List.drop_eq_nil_of_le (by omega)]
      exact .incomplete (by omega)

/-- Reading a frame at any place of a buffer comes to an end without a sum beyond a machine word and
without a slice beyond the buffer, whatever lengths and counts are announced and however deep arrays
nest; and it goes as the bytes from the place on are read. A frame ends within the buffer, and each of
the frames that it is made of takes three bytes at least. There is one call for each byte at most, and
one more. -/
theorem reading_keeps_to_buffer (limit : Nat) (buffer : Bytes) (place : Nat)
    (short : buffer.length < 2 ^ 62) :
    match frameAt limit buffer place with
    | .stopped _ => False
    | .done calls frame next _ =>
      calls ≤ buffer.length - place + 1 ∧
        Frame.parse limit (buffer.drop place) = .done frame (buffer.drop next) ∧
        place + 3 ≤ next ∧ next ≤ buffer.length ∧ 3 * frame.nodes ≤ next - place
    | .incomplete calls =>
      calls ≤ buffer.length - place + 1 ∧ Frame.parse limit (buffer.drop place) = .incomplete
    | .failed calls error =>
      calls ≤ buffer.length - place + 1 ∧ Frame.parse limit (buffer.drop place) = .failed error := by
  -- As many levels are possible as there are bytes.
  have keeps := frameAt_keeps short limit (Nat.le_of_eq (List.length_drop (i := place)).symm)
  rw [Frame.parse]
  generalize Frame.parseWithin limit _ (buffer.drop place) = parsed at keeps ⊢
  generalize frameAt limit buffer place = reading at keeps ⊢
  cases keeps with
  | incomplete few => exact ⟨few, rfl⟩
  | failed few => exact ⟨few, rfl⟩
  | @done frame rest calls next ahead left inside cost room =>
    subst left cost
    -- A frame is one of the frames that it is made of, so it takes three bytes.
    have some_nodes := frame.nodes_pos
    exact ⟨by omega, rfl, by omega, inside, room⟩

/-- A payload of the greatest length that there is, announced under the greatest limit. -/
theorem reading_keeps_to_buffer_of_longest :
    let buffer : Bytes :=
      [42, 49, 13, 10] ++ Frame.line '$' (Frame.numeral Int64.maxValue.toInt) ++ [97, 98]
    buffer.length < 2 ^ 62 ∧
      ∃ calls ≤ 29, frameAt (2 ^ 64 - 1) buffer 0 = .incomplete calls := by
  intro buffer
  have short : buffer.length < 2 ^ 62 := by decide
  refine ⟨short, ?_⟩
  -- The array waits for its first item.
  have waits : Frame.parse (2 ^ 64 - 1) (buffer.drop 0) = .incomplete := by rfl
  have bounds := reading_keeps_to_buffer (2 ^ 64 - 1) buffer 0 short
  cases read : frameAt (2 ^ 64 - 1) buffer 0 with
  | incomplete calls =>
    rw [read] at bounds
    exact ⟨calls, bounds.1, rfl⟩
  -- None of the other results is that of a frame that is incomplete.
  | stopped fault => rw [read] at bounds; exact bounds.elim
  | done calls frame next ahead =>
    rw [read] at bounds
    exact absurd (waits.symm.trans bounds.2.1) nofun
  | failed calls error =>
    rw [read] at bounds
    exact absurd (waits.symm.trans bounds.2) nofun

end Cursor

end RedisCluster
