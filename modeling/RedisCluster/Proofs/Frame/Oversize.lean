import RedisCluster.Proofs.Frame.Chunks
import RedisCluster.Proofs.Frame.Grammar

/-! How large a frame may be: the limit holds for the lengths and counts in it, but for the frame as
a whole only as long as some of it is missing. -/

namespace RedisCluster.Decoder

variable {limit unchecked : Nat} {decoder after : Decoder} {frame : Frame}

/-- A decoder that has been used in any way since it was made with a limit. So many bytes have been
appended since it last waited for more. -/
inductive Used (limit : Nat) : Nat → Decoder → Prop where
  | new : Used limit 0 ⟨limit, []⟩
  | append {unchecked : Nat} {decoder : Decoder} (used : Used limit unchecked decoder)
      (chunk : Bytes) : Used limit (unchecked + chunk.length) (decoder.append chunk)
  | waited {unchecked : Nat} {decoder : Decoder} (used : Used limit unchecked decoder)
      (waits : decoder.decode.1 = .ok none) : Used limit 0 decoder.decode.2
  | answered {unchecked : Nat} {decoder : Decoder} (used : Used limit unchecked decoder)
      (answers : decoder.decode.1 ≠ .ok none) : Used limit unchecked decoder.decode.2

/-- Decoding appends nothing, and it does not change the limit. -/
theorem decode_shrinks (decoder : Decoder) :
    decoder.decode.2.limit = decoder.limit ∧ decoder.decode.2.buffered ≤ decoder.buffered := by
  rcases decode_cases decoder with ⟨frame, rest, read, answer⟩ | ⟨fault, answer, _⟩ | answer
  · rw [answer]
    -- A frame that is taken makes the buffer shorter, and nothing else changes it.
    exact ⟨rfl, Nat.le_of_lt (Frame.length_lt_of_parse read)⟩
  · rw [answer]
    exact ⟨rfl, Nat.le_refl _⟩
  · rw [answer]
    exact ⟨rfl, Nat.le_refl _⟩

/-- A buffer is within the limit but for the bytes that came since the decoder last waited. -/
theorem Used.buffered_le (used : Used limit unchecked decoder) :
    decoder.limit = limit ∧ decoder.buffered ≤ limit + unchecked := by
  induction used with
  | new => exact ⟨rfl, Nat.zero_le _⟩
  -- What is appended is counted.
  | append used chunk ih =>
    refine ⟨ih.1, ?_⟩
    have before := ih.2
    simp only [buffered, Decoder.append, List.length_append] at before ⊢
    omega
  | @waited _ decoder used waits ih =>
    obtain ⟨same, fewer⟩ := decode_shrinks decoder
    -- Who waits has a buffer within the limit, whatever came before.
    have small := buffered_le_limit (Prod.ext waits rfl)
    exact ⟨same.trans ih.1, Nat.le_trans fewer (ih.1 ▸ small)⟩
  | @answered _ decoder used _ ih =>
    -- To take a frame or to find an error is no wait, so the count stays.
    obtain ⟨same, fewer⟩ := decode_shrinks decoder
    exact ⟨same.trans ih.1, Nat.le_trans fewer ih.2⟩

/-- The limit bounds the lengths and counts that a frame announces, and the bytes that wait for more.
A frame that is taken may exceed it by what has come since the decoder last waited; and a frame that
announces nothing beyond the limit is taken in whatever chunks it comes, with an error on the way
exactly if some chunk ends beyond the limit with bytes of the frame still to come. -/
theorem limit_checked_while_incomplete (limit : Nat) :
    (∀ unchecked decoder frame after, Used limit unchecked decoder →
      decoder.decode = (.ok (some frame), after) →
      ∃ front, decoder.buffer = front ++ after.buffer ∧ Frame.Derives limit frame front ∧
        front.length ≤ limit + unchecked) ∧
    ∀ frame front, Frame.Derives limit frame front → ∀ chunks, chunks.flatten = front →
      feed ⟨limit, []⟩ chunks =
        ([frame], (overrun? limit 0 chunks).map (.frameTooLarge · limit), ⟨limit, []⟩) := by
  constructor
  · intro unchecked decoder frame after used taken
    obtain ⟨same, bounded⟩ := used.buffered_le
    obtain ⟨read, -⟩ := parse_of_decode taken
    obtain ⟨front, whole, derived⟩ := Frame.parse_eq_done_iff.1 read
    refine ⟨front, whole.symm, same ▸ derived, Nat.le_trans ?_ bounded⟩
    -- The frame is a part of the buffer.
    rw [buffered, ← whole, List.length_append]
    exact Nat.le_add_right _ _
  · intro frame front derived chunks cut
    exact feed_of_parse (Frame.parse_eq_done_iff.2 ⟨front, List.append_nil front, derived⟩) cut

/-- A line of eight bytes under a limit of four. The last five come after the decoder has waited;
cut like this it comes to no error, and cut further behind it does. -/
theorem limit_checked_while_incomplete_of_line :
    (∃ front, [43, 104, 101, 108, 108, 111, 13, 10] = front ++ [] ∧
      Frame.Derives 4 (.simple "hello") front ∧ front.length ≤ 4 + 5) ∧
    feed ⟨4, []⟩ [[43, 104, 101], [108, 108, 111, 13, 10]] = ([.simple "hello"], none, ⟨4, []⟩) ∧
    feed ⟨4, []⟩ [[43, 104, 101, 108, 108], [111, 13, 10]] =
      ([.simple "hello"], some (.frameTooLarge 5 4), ⟨4, []⟩) := by
  have waited : Used 4 0 ⟨4, [43, 104, 101]⟩ := .waited (.append .new [43, 104, 101]) rfl
  have used : Used 4 5 ⟨4, [43, 104, 101, 108, 108, 111, 13, 10]⟩ :=
    .append waited [108, 108, 111, 13, 10]
  have derived : Frame.Derives 4 (.simple "hello") [43, 104, 101, 108, 108, 111, 13, 10] :=
    .simple (by decide)
  -- The decoder has waited with three bytes, and five are appended then.
  exact ⟨(limit_checked_while_incomplete 4).1 _ _ _ ⟨4, []⟩ used rfl,
    (limit_checked_while_incomplete 4).2 _ _ derived _ rfl,
    (limit_checked_while_incomplete 4).2 _ _ derived _ rfl⟩

/-- A frame of eight bytes that comes at once is taken by a decoder with a limit of four. -/
theorem oversized_frame_taken :
    ∃ decoder after frame, Used 4 8 decoder ∧ decoder.decode = (.ok (some frame), after) ∧
      decoder.buffered = after.buffered + 8 :=
  ⟨⟨4, [43, 104, 101, 108, 108, 111, 13, 10]⟩, ⟨4, []⟩, .simple "hello",
    .append .new [43, 104, 101, 108, 108, 111, 13, 10], rfl, rfl⟩

end RedisCluster.Decoder
