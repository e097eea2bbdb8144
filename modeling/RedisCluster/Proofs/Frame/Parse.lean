import RedisCluster.Frame.Decode

/-! What the front of some bytes amounts to does not depend on the bytes behind it. -/

namespace RedisCluster

/-- A reader that judges the front of its bytes alone: whatever follows the part it took, it takes
this part and gives the same value, and an error it found stays whatever is appended. -/
structure Parsed.FrontOnly {α : Type} (reader : Bytes → Parsed α) : Prop where
  taken : ∀ {bytes value rest}, reader bytes = .done value rest →
    ∃ front, front ++ rest = bytes ∧ ∀ more, reader (front ++ more) = .done value more
  judged : ∀ {bytes fault}, reader bytes = .failed fault →
    ∀ more, reader (bytes ++ more) = .failed fault

/-- A line that ends within some bytes is at their front, and it is the same line whatever follows
its end. -/
theorem splitLine?_eq_some {bytes line rest : Bytes} (split : splitLine? bytes = some (line, rest)) :
    line ++ crlf ++ rest = bytes ∧
      ∀ more, splitLine? (line ++ crlf ++ more) = some (line, more) := by
  induction bytes generalizing line with
  | nil => cases split
  | cons byte body ih =>
    rw [splitLine?] at split
    split at split
    · rename_i ends
      obtain ⟨rfl, follows⟩ := ends
      cases split
      -- The line is empty, and its end is the front of the bytes.
      obtain ⟨after, rfl⟩ := List.head?_eq_some_iff.mp follows
      exact ⟨rfl, fun more => rfl⟩
    · rename_i goesOn
      obtain ⟨⟨shorter, left⟩, found, whole⟩ := Option.map_eq_some_iff.mp split
      cases whole
      -- The line begins with this byte and goes on in the others.
      obtain ⟨rfl, again⟩ := ih found
      refine ⟨rfl, fun more => ?_⟩
      have stays : ¬ (byte = 13 ∧ (shorter ++ crlf ++ more).head? = some 10) := by
        -- The byte behind this one is in the line or in its end, so it is the same one.
        cases shorter <;> exact goesOn
      rw [List.cons_append, List.cons_append, splitLine?, if_neg stays, again]
      rfl

namespace Parsed

variable {α β : Type}

/-- What comes of reading on behind a value. -/
def andThen (parsed : Parsed α) (next : α → Bytes → Parsed β) : Parsed β :=
  match parsed with
  -- Whoever waits or fails reads nothing behind.
  | .incomplete => .incomplete
  | .failed fault => .failed fault
  | .done value rest => next value rest

/-- A value at the end of two readings has one at the end of the first. -/
theorem andThen_eq_done {parsed : Parsed α} {next : α → Bytes → Parsed β} {given : β}
    {after : Bytes} (read : parsed.andThen next = .done given after) :
    ∃ value rest, parsed = .done value rest ∧ next value rest = .done given after := by
  cases parsed with
  | incomplete => cases read
  | failed fault => cases read
  | done value rest => exact ⟨value, rest, rfl, read⟩

/-- An error at the end of two readings is an error of either. -/
theorem andThen_eq_failed {parsed : Parsed α} {next : α → Bytes → Parsed β} {fault : DecodeError}
    (read : parsed.andThen next = .failed fault) :
    parsed = .failed fault ∨
      ∃ value rest, parsed = .done value rest ∧ next value rest = .failed fault := by
  cases parsed with
  | incomplete => cases read
  -- The second reader is asked only if the first one succeeds.
  | failed found => cases read; exact .inl rfl
  | done value rest => exact .inr ⟨value, rest, rfl, read⟩

/-- One value more is read before the others. -/
theorem replicate_succ (reader : Bytes → Parsed α) (count : Nat) :
    replicate reader (count + 1) = fun bytes => (reader bytes).andThen fun value rest =>
      (replicate reader count rest).andThen fun values => .done (value :: values) := by
  funext bytes
  rw [replicate]
  cases reader bytes with
  | incomplete => rfl
  | failed fault => rfl
  | done value rest =>
    simp only [andThen]
    cases replicate reader count rest <;> rfl

namespace FrontOnly

/-- What is read matters, and not how it is written down. -/
theorem congr {reader other : Bytes → Parsed α} (front_only : FrontOnly reader)
    (same : ∀ bytes, other bytes = reader bytes) : FrontOnly other :=
  funext same ▸ front_only

/-- A value that takes no bytes. -/
theorem done (value : α) : FrontOnly (Parsed.done value) where
  taken := by
    intro bytes given rest read
    -- The reader always succeeds, so the value and the rest are what was given.
    injection read with same left
    -- Nothing is taken, so the front is empty.
    exact ⟨[], by simp [left], fun more => by simp [same]⟩
  judged := by
    intro bytes fault read
    cases read

/-- An error that no byte can change. -/
theorem failed (fault : DecodeError) : FrontOnly fun _ => (.failed fault : Parsed α) where
  taken := by
    intro bytes given rest read
    cases read
  judged := by
    intro bytes found read more
    exact read

/-- A reader that waits whatever it is given. -/
theorem incomplete : FrontOnly fun _ => (.incomplete : Parsed α) where
  taken := by
    intro bytes given rest read
    cases read
  judged := by
    intro bytes found read more
    exact read

/-- What is left of the bytes after a value is no longer than they were. -/
theorem length_le {reader : Bytes → Parsed α} (front_only : FrontOnly reader) {bytes : Bytes}
    {value : α} {rest : Bytes} (read : reader bytes = .done value rest) :
    rest.length ≤ bytes.length := by
  obtain ⟨front, rfl, _⟩ := front_only.taken read
  simp

/-- Reading goes on with another reader behind the value of the first. -/
theorem andThen {first : Bytes → Parsed α} {next : α → Bytes → Parsed β}
    (front_only : FrontOnly first) (front_onlies : ∀ value, FrontOnly (next value)) :
    FrontOnly fun bytes => (first bytes).andThen next where
  taken := by
    intro bytes given rest read
    obtain ⟨value, middle, found, onward⟩ := andThen_eq_done read
    obtain ⟨front, rfl, again⟩ := front_only.taken found
    obtain ⟨front', rfl, again'⟩ := (front_onlies value).taken onward
    -- What both take in turn is the front of the whole.
    refine ⟨front ++ front', by simp, fun more => ?_⟩
    -- The first reader gives its value again, and the second one reads on from there.
    simp only [List.append_assoc, again, Parsed.andThen, again']
  judged := by
    intro bytes fault read more
    rcases andThen_eq_failed read with found | ⟨value, middle, found, onward⟩
    -- The error of the first reader, or that of the second one behind its front.
    · simp only [front_only.judged found, Parsed.andThen]
    · obtain ⟨front, rfl, again⟩ := front_only.taken found
      simp only [List.append_assoc, again, Parsed.andThen, (front_onlies value).judged onward]

/-- A value is read a number of times in a row. -/
theorem replicate {reader : Bytes → Parsed α} (front_only : FrontOnly reader) (count : Nat) :
    FrontOnly (Parsed.replicate reader count) := by
  induction count with
  | zero => exact done []
  | succ count ih =>
    rw [replicate_succ]
    -- The first value is read, then the others behind it.
    refine andThen front_only fun value => ?_
    exact andThen ih fun values => done (value :: values)

/-- The first byte says how the others are read. -/
theorem uncons {reader : Bytes → Parsed α} (waits : reader [] = .incomplete)
    (front_onlies : ∀ byte, FrontOnly fun body => reader (byte :: body)) : FrontOnly reader where
  taken := by
    intro bytes given rest read
    cases bytes with
    -- Nothing is read from no bytes.
    | nil => rw [waits] at read; cases read
    | cons byte body =>
      -- The first byte is a part of the front, too.
      obtain ⟨front, rfl, again⟩ := (front_onlies byte).taken read
      exact ⟨byte :: front, rfl, again⟩
  judged := by
    intro bytes fault read more
    cases bytes with
    | nil => rw [waits] at read; cases read
    | cons byte body => exact (front_onlies byte).judged read more

/-- The first line says how the bytes behind it are read. -/
theorem line {reader : Bytes → Parsed α} {next : Bytes → Bytes → Parsed α}
    (waits : ∀ bytes, splitLine? bytes = none → reader bytes = .incomplete)
    (reads : ∀ bytes line rest, splitLine? bytes = some (line, rest) → reader bytes = next line rest)
    (front_onlies : ∀ line, FrontOnly (next line)) : FrontOnly reader where
  taken := by
    intro bytes given rest read
    cases split : splitLine? bytes with
    | none => rw [waits bytes split] at read; cases read
    | some found =>
      obtain ⟨line, body⟩ := found
      rw [reads bytes line body split] at read
      obtain ⟨front, rfl, again⟩ := (front_onlies line).taken read
      obtain ⟨rfl, splitAgain⟩ := splitLine?_eq_some split
      -- The line stays the first whatever follows it, so `next` is asked about the same line.
      refine ⟨line ++ crlf ++ front, by simp, fun more => ?_⟩
      rw [List.append_assoc, reads _ line (front ++ more) (splitAgain _), again]
  judged := by
    intro bytes fault read more
    cases split : splitLine? bytes with
    | none => rw [waits bytes split] at read; cases read
    | some found =>
      obtain ⟨line, body⟩ := found
      rw [reads bytes line body split] at read
      obtain ⟨rfl, splitAgain⟩ := splitLine?_eq_some split
      rw [List.append_assoc, reads _ line (body ++ more) (splitAgain _)]
      exact (front_onlies line).judged read more

end FrontOnly

end Parsed

namespace Frame

open Parsed (FrontOnly)

/-- A payload of the announced length that its line end follows is read whole. -/
theorem readPayload_append (payload more : Bytes) :
    readPayload payload.length (payload ++ crlf ++ more) = .done payload more := by
  have enough : ¬ (payload ++ crlf ++ more).length < payload.length + 2 := by
    simp [crlf]
  -- Behind the payload and its line end the rest begins.
  have apart : (payload ++ crlf ++ more).drop (payload.length + 2) = more := by
    rw [← List.drop_drop, List.append_assoc, List.drop_left]
    rfl
  rw [readPayload, if_neg enough, apart, List.append_assoc, List.drop_left, List.take_left]
  rfl

/-- A payload is judged by its announced length and the line end behind it. -/
theorem readPayload_frontOnly (length : Nat) : FrontOnly (readPayload length) where
  taken := by
    intro bytes payload rest read
    rw [readPayload] at read
    split at read
    · cases read
    rename_i enough
    split at read
    · rename_i ends
      injection read with same left
      -- What was taken is the payload and the line end that was checked.
      refine ⟨payload ++ crlf, ?_, fun more => ?_⟩
      · rw [← same, ← left, ← ends, ← List.drop_drop, List.append_assoc, List.take_append_drop,
          List.take_append_drop]
      · -- With these bytes in front the reader finds the same payload, whatever follows.
        have size : payload.length = length := by
          rw [← same, List.length_take]
          omega
        rw [← size]
        exact readPayload_append payload more
    · cases read
  judged := by
    intro bytes fault read more
    rw [readPayload] at read ⊢
    split at read
    · cases read
    rename_i enough
    split at read
    · cases read
    rename_i ends
    -- Payload and line end are there already, so more bytes cannot repair a wrong line end.
    have longer : ¬ (bytes ++ more).length < length + 2 := by
      rw [List.length_append]
      omega
    have apart : (bytes ++ more).drop length = bytes.drop length ++ more :=
      List.drop_append_of_le_length (by omega)
    have within : ((bytes ++ more).drop length).take 2 = (bytes.drop length).take 2 := by
      rw [apart, List.take_append_of_le_length (by rw [List.length_drop]; omega)]
    rw [if_neg longer, within, if_neg ends]
    exact read

/-- A frame is read from the front of the bytes alone, however deep it may nest. -/
theorem parseWithin_frontOnly (limit depth : Nat) : FrontOnly (parseWithin limit depth) := by
  -- The items of an array are read one level deeper, which is what the induction is for.
  induction depth with
  | zero => exact FrontOnly.incomplete
  | succ depth ih =>
    refine FrontOnly.uncons rfl fun marker => ?_
    refine FrontOnly.line (fun body waits => by simp only [parseWithin, waits])
      (fun body line rest found => by simp only [parseWithin, found]; rfl) fun line => ?_
    -- The line is judged by the marker alone, and only payloads and items are read behind it.
    generalize Char.ofNat marker.toNat = kind
    by_cases simple : kind = '+'
    · subst simple
      generalize readText line = text
      cases text with
      | error fault => exact FrontOnly.failed fault
      | ok text => exact FrontOnly.done _
    by_cases error : kind = '-'
    · subst error
      generalize readText line = text
      cases text with
      | error fault => exact FrontOnly.failed fault
      | ok text => exact FrontOnly.done _
    by_cases integer : kind = ':'
    · subst integer
      generalize readInteger line = value
      cases value with
      | error fault => exact FrontOnly.failed fault
      | ok value => exact FrontOnly.done _
    by_cases bulk : kind = '$'
    · subst bulk
      generalize readLength limit line = length
      rcases length with fault | _ | length
      · exact FrontOnly.failed fault
      · exact FrontOnly.done _
      · refine FrontOnly.congr (FrontOnly.andThen (readPayload_frontOnly length) fun payload =>
          FrontOnly.done (.bulk (some payload))) fun rest => ?_
        dsimp only
        cases readPayload length rest <;> rfl
    by_cases array : kind = '*'
    · subst array
      generalize readLength limit line = count
      rcases count with fault | _ | count
      · exact FrontOnly.failed fault
      · exact FrontOnly.done _
      · refine FrontOnly.congr (FrontOnly.andThen (FrontOnly.replicate ih count) fun items =>
          FrontOnly.done (.array items)) fun rest => ?_
        dsimp only
        cases Parsed.replicate (parseWithin limit depth) count rest <;> rfl
    · -- No other marker begins a frame.
      refine FrontOnly.congr (FrontOnly.failed (.unknownType marker)) fun rest => ?_
      split <;> first | contradiction | rfl

/-- Two readers that agree on the bytes of a certain length at most read the same values in a row. -/
theorem replicate_congr {α : Type} {reader other : Bytes → Parsed α} (front_only : FrontOnly reader)
    {size : Nat} (same : ∀ bytes, bytes.length ≤ size → reader bytes = other bytes) (count : Nat) :
    ∀ bytes, bytes.length ≤ size →
      Parsed.replicate reader count bytes = Parsed.replicate other count bytes := by
  induction count with
  | zero => exact fun _ _ => rfl
  | succ count ih =>
    intro bytes short
    simp only [Parsed.replicate_succ, ← same bytes short]
    cases read : reader bytes with
    | incomplete => rfl
    | failed fault => rfl
    | done value rest =>
      -- What a value leaves is no longer, so the two readers still agree on it.
      have left := front_only.length_le read
      simp only [Parsed.andThen, ih rest (by omega)]

/-- Bytes nest no deeper than there are of them, so any greater depth reads the same. -/
theorem parseWithin_eq (limit : Nat) {depth other : Nat} {bytes : Bytes}
    (enough : bytes.length ≤ depth) (enoughToo : bytes.length ≤ other) :
    parseWithin limit depth bytes = parseWithin limit other bytes := by
  induction depth generalizing other bytes with
  | zero =>
    have none : bytes = [] := List.length_eq_zero_iff.mp (by omega)
    subst none
    cases other <;> rfl
  | succ depth ih =>
    cases bytes with
    | nil => cases other <;> rfl
    | cons marker body =>
      -- The marker is one byte, so the items have one byte and one level less than the array.
      obtain ⟨other, rfl⟩ : ∃ fewer, other = fewer + 1 :=
        Nat.exists_eq_succ_of_ne_zero (by rw [List.length_cons] at enoughToo; omega)
      rw [List.length_cons] at enough enoughToo
      rw [parseWithin, parseWithin]
      cases split : splitLine? body with
      | none => rfl
      | some found =>
        obtain ⟨line, rest⟩ := found
        have shorter : rest.length ≤ body.length := by
          rw [← (splitLine?_eq_some split).1, List.length_append]
          omega
        -- The same items are found, because the readers of one item agree on bytes as short as
        -- these.
        have items (count : Nat) : Parsed.replicate (parseWithin limit depth) count rest =
            Parsed.replicate (parseWithin limit other) count rest :=
          replicate_congr (parseWithin_frontOnly limit depth)
            (fun bytes short => ih (by omega) (by omega)) count rest shorter
        simp only [items]

/-- Reading a frame with any depth that the bytes can reach. -/
theorem parse_eq (limit : Nat) {depth : Nat} {bytes : Bytes} (enough : bytes.length ≤ depth) :
    parse limit bytes = parseWithin limit depth bytes :=
  parseWithin_eq limit (Nat.le_refl _) enough

/-- A frame is read from the front of the bytes alone. -/
theorem parse_frontOnly (limit : Nat) : FrontOnly (parse limit) where
  taken := by
    intro bytes frame rest read
    obtain ⟨front, rfl, _⟩ := (parseWithin_frontOnly limit bytes.length).taken read
    refine ⟨front, rfl, fun more => ?_⟩
    -- One depth that is enough for the bytes read so far and for those to read.
    have old : (front ++ rest).length ≤ front.length + rest.length + more.length := by simp
    have new : (front ++ more).length ≤ front.length + rest.length + more.length := by
      rw [List.length_append]
      omega
    rw [parse_eq limit old] at read
    rw [parse_eq limit new]
    obtain ⟨front', same, again⟩ := (parseWithin_frontOnly limit _).taken read
    have front_eq : front' = front := List.append_cancel_right same
    rw [front_eq] at again
    exact again more
  judged := by
    intro bytes fault read more
    have old : bytes.length ≤ (bytes ++ more).length := by simp
    rw [parse_eq limit old] at read
    exact (parseWithin_frontOnly limit _).judged read more

/-- Without a byte there is no frame yet. -/
theorem parse_nil (limit : Nat) : parse limit [] = .incomplete :=
  rfl

/-- A frame takes at least one byte. -/
theorem length_lt_of_parse {limit : Nat} {bytes rest : Bytes} {frame : Frame}
    (read : parse limit bytes = .done frame rest) : rest.length < bytes.length := by
  obtain ⟨front, rfl, again⟩ := (parse_frontOnly limit).taken read
  cases front with
  | nil =>
    -- A frame of no bytes would be read from no bytes as well.
    exact absurd (again []) (by simp [parse_nil])
  | cons byte front =>
    rw [List.length_append, List.length_cons]
    omega

/-- A part of the bytes of a frame that lacks the last of them is no frame yet. -/
theorem parse_incomplete {limit : Nat} {front missing : Bytes} {frame : Frame}
    (lacks : missing ≠ []) (read : parse limit (front ++ missing) = .done frame []) :
    parse limit front = .incomplete := by
  cases part : parse limit front with
  | incomplete => rfl
  | failed fault =>
    rw [(parse_frontOnly limit).judged part] at read
    cases read
  | done early rest =>
    -- A frame found too early would leave the missing bytes over, and nothing is left over.
    obtain ⟨taken, rfl, again⟩ := (parse_frontOnly limit).taken part
    rw [List.append_assoc, again] at read
    injection read with _ left
    exact absurd (List.append_eq_nil_iff.mp left).2 lacks

/-- A length within a limit is within a greater one. -/
theorem readLength_mono {limit other : Nat} (within : limit ≤ other) {line : Bytes}
    {length : Option Nat} (read : readLength limit line = .ok length) :
    readLength other line = .ok length := by
  unfold readLength at read ⊢
  cases number : readInteger line with
  | error fault => simp [number] at read
  | ok value =>
    simp only [number] at read ⊢
    -- A length that is not too large for one limit is not too large for the other.
    by_cases large : limit < value.toInt.toNat
    · by_cases null : value.toInt = -1
      · omega
      · rw [if_neg null, if_neg (by omega), if_pos large] at read
        cases read
    · rw [if_neg (by omega : ¬ other < value.toInt.toNat)]
      rwa [if_neg large] at read

/-- What one reader reads several times in a row, another that reads as much reads as well. -/
theorem replicate_mono {α : Type} {reader other : Bytes → Parsed α}
    (more : ∀ {bytes value rest}, reader bytes = .done value rest → other bytes = .done value rest)
    {count : Nat} {bytes rest : Bytes} {values : List α}
    (read : Parsed.replicate reader count bytes = .done values rest) :
    Parsed.replicate other count bytes = .done values rest := by
  induction count generalizing bytes values with
  | zero => exact read
  | succ count ih =>
    simp only [Parsed.replicate_succ] at read ⊢
    obtain ⟨value, left, first, read⟩ := Parsed.andThen_eq_done read
    obtain ⟨others, last, again, same⟩ := Parsed.andThen_eq_done read
    cases same
    simp only [more first, Parsed.andThen, ih again]

/-- A frame that is read within a limit is read within a greater one. -/
theorem parseWithin_mono {limit other : Nat} (within : limit ≤ other) {depth : Nat}
    {bytes rest : Bytes} {frame : Frame} (read : parseWithin limit depth bytes = .done frame rest) :
    parseWithin other depth bytes = .done frame rest := by
  induction depth generalizing bytes rest frame with
  | zero => cases read
  | succ depth ih =>
    cases bytes with
    | nil => cases read
    | cons marker body =>
      rw [parseWithin] at read ⊢
      cases found : splitLine? body with
      | none => rw [found] at read; cases read
      | some cut =>
        obtain ⟨line, left⟩ := cut
        simp only [found] at read ⊢
        generalize Char.ofNat marker.toNat = kind at read ⊢
        -- Only payloads and arrays have a length, and of an array the items are read as well.
        by_cases bulk : kind = '$'
        · subst bulk
          cases allowed : readLength limit line with
          | error fault => rw [allowed] at read; cases read
          | ok length =>
            rw [allowed] at read
            rwa [readLength_mono within allowed]
        by_cases array : kind = '*'
        · subst array
          cases allowed : readLength limit line with
          | error fault => rw [allowed] at read; cases read
          | ok count =>
            rw [allowed] at read
            rw [readLength_mono within allowed]
            cases count with
            | none => exact read
            | some count =>
              dsimp only at read ⊢
              cases items : Parsed.replicate (parseWithin limit depth) count left with
              | incomplete => rw [items] at read; cases read
              | failed fault => rw [items] at read; cases read
              | done frames after =>
                rw [items] at read
                rwa [replicate_mono ih items]
        · split at read <;> first | contradiction | exact read

/-- A frame that is read within a limit is read within a greater one. -/
theorem parse_mono {limit other : Nat} (within : limit ≤ other) {bytes rest : Bytes} {frame : Frame}
    (read : parse limit bytes = .done frame rest) : parse other bytes = .done frame rest :=
  parseWithin_mono within read

end Frame

end RedisCluster
