import Mathlib.Data.List.TakeWhile
import RedisCluster.Proofs.Slot.Checksum
import RedisCluster.Text.Utf8

/-! The tag of a key: which bytes of a key decide about its slot. -/

namespace RedisCluster

variable {key tag front inner content rest : Bytes} {brace : UInt8}

section Braces

/-- No byte of a text is a brace that the text does not contain. -/
private theorem ne_of_absent (absent : brace ∉ front) :
    ∀ byte ∈ front, decide (byte ≠ brace) = true := by
  intro byte member
  refine decide_eq_true fun same => absent ?_
  rwa [← same]

/-- Up to the first brace of a kind stands what is before it. -/
private theorem takeWhile_brace (absent : brace ∉ front) :
    (front ++ brace :: rest).takeWhile (· ≠ brace) = front := by
  rw [List.takeWhile_append_of_pos (ne_of_absent absent)]
  -- The brace itself ends the search.
  simp

/-- From the first brace of a kind on stand this brace and what is behind it. -/
private theorem dropWhile_brace (absent : brace ∉ front) :
    (front ++ brace :: rest).dropWhile (· ≠ brace) = brace :: rest := by
  rw [List.dropWhile_append_of_pos (ne_of_absent absent)]
  simp

/-- The place of the first brace of a kind is the number of bytes before it. -/
private theorem idxOf?_brace (absent : brace ∉ front) :
    (front ++ brace :: rest).idxOf? brace = some front.length := by
  induction front with
  | nil => simp [List.idxOf?_cons]
  | cons byte front ih =>
    -- The first byte is another one, so the brace is found behind it.
    rw [List.mem_cons, not_or] at absent
    simp [List.idxOf?_cons, Ne.symm absent.1, ih absent.2]

/-- A key has no opening brace, or no closing one behind the first opening one, or else something
between the two, even if it is nothing. -/
theorem braces_cases (key : Bytes) :
    123 ∉ key ∨
    (∃ front inner, key = front ++ 123 :: inner ∧ 123 ∉ front ∧ 125 ∉ inner) ∨
    ∃ front content rest, key = front ++ 123 :: (content ++ 125 :: rest) ∧ 123 ∉ front ∧
      125 ∉ content := by
  -- The first opening brace decides where to look for a closing one.
  by_cases opened : 123 ∈ key
  · obtain ⟨front, inner, rfl, unopened⟩ := List.eq_append_cons_of_mem opened
    by_cases closed : 125 ∈ inner
    · obtain ⟨content, rest, rfl, unclosed⟩ := List.eq_append_cons_of_mem closed
      exact .inr (.inr ⟨front, content, rest, rfl, unopened, unclosed⟩)
    · exact .inr (.inl ⟨front, inner, rfl, unopened, closed⟩)
  · exact .inl opened

end Braces

/-- Without an opening brace there is no tag. -/
theorem hashTag?_of_unopened (unopened : 123 ∉ key) : hashTag? key = none := by
  -- The search for an opening brace reaches the end.
  have nowhere : key.dropWhile (· ≠ 123) = [] :=
    List.dropWhile_eq_nil_iff.2 (ne_of_absent unopened)
  simp only [hashTag?, nowhere]

/-- Without a closing brace behind the opening one there is no tag. -/
theorem hashTag?_of_unclosed (unopened : 123 ∉ front) (unclosed : 125 ∉ inner) :
    hashTag? (front ++ 123 :: inner) = none := by
  -- The search for a closing brace reaches the end.
  have whole : inner.takeWhile (· ≠ 125) = inner :=
    List.takeWhile_eq_self_iff.2 (ne_of_absent unclosed)
  simp only [hashTag?, dropWhile_brace unopened, whole, or_true, if_true]

/-- Between the two braces stands the tag, unless nothing does. -/
theorem hashTag?_of_braces (unopened : 123 ∉ front) (unclosed : 125 ∉ content) :
    hashTag? (front ++ 123 :: (content ++ 125 :: rest)) =
      if content = [] then none else some content := by
  -- The closing brace itself is a byte behind the content.
  have shorter : content.length ≠ (content ++ 125 :: rest).length := by simp
  simp only [hashTag?, dropWhile_brace unopened, takeWhile_brace unclosed, shorter, or_false]

/-- The tag of a key stands between its first opening brace and the next closing one, and it is not
empty. -/
def Tagged (key tag : Bytes) : Prop :=
  ∃ front rest, key = front ++ 123 :: (tag ++ 125 :: rest) ∧ 123 ∉ front ∧ tag ≠ [] ∧ 125 ∉ tag

/-- The tag that is found is the tag of the key. -/
theorem hashTag?_eq_some_iff : hashTag? key = some tag ↔ Tagged key tag := by
  constructor
  · intro found
    -- Only a key with both braces has a tag.
    rcases braces_cases key with unopened | ⟨front, inner, rfl, unopened, unclosed⟩ |
      ⟨front, content, rest, rfl, unopened, unclosed⟩
    · rw [hashTag?_of_unopened unopened] at found
      cases found
    · rw [hashTag?_of_unclosed unopened unclosed] at found
      cases found
    · rw [hashTag?_of_braces unopened unclosed] at found
      -- Between the braces there must be something.
      split at found
      · cases found
      · rename_i filled
        obtain rfl := Option.some.inj found
        exact ⟨front, rest, rfl, unopened, filled, unclosed⟩
  · rintro ⟨front, rest, rfl, unopened, filled, unclosed⟩
    rw [hashTag?_of_braces unopened unclosed, if_neg filled]

/-- No tag is found exactly if the key has none. -/
theorem hashTag?_eq_none_iff : hashTag? key = none ↔ ∀ tag, ¬ Tagged key tag := by
  simp only [Option.eq_none_iff_forall_ne_some, Ne, hashTag?_eq_some_iff]

/-- A tag has no tag itself. -/
theorem Tagged.untagged (tagged : Tagged key tag) : ∀ other, ¬ Tagged tag other := by
  -- A tag would have to hold its closing brace.
  obtain ⟨_, _, _, _, _, unclosed⟩ := tagged
  rintro other ⟨front, rest, rfl, -⟩
  exact unclosed (by simp)

/-- A key has at most one tag. -/
theorem Tagged.unique {other : Bytes} (tagged : Tagged key tag) (again : Tagged key other) :
    tag = other := by
  -- Both tags are the one that is found.
  rw [← hashTag?_eq_some_iff] at tagged again
  exact Option.some.inj (tagged.symm.trans again)

/-- A key with a tag has the slot of its tag. -/
theorem Tagged.keySlot_eq (tagged : Tagged key tag) :
    keySlot key = (Crc16.checksum tag).toNat % slotCount := by
  rw [keySlot, hashTag?_eq_some_iff.2 tagged, Option.getD_some]

/-- A key without a tag has the slot of all its bytes. -/
theorem keySlot_of_untagged (untagged : ∀ tag, ¬ Tagged key tag) :
    keySlot key = (Crc16.checksum key).toNat % slotCount := by
  rw [keySlot, hashTag?_eq_none_iff.2 untagged, Option.getD_none]

section Places

/-- The bytes from one place up to another; there are none if the places are not in order, or
reach past the last byte. -/
def slice? (bytes : Bytes) (first last : Nat) : Option Bytes :=
  if first ≤ last ∧ last ≤ bytes.length then some ((bytes.take last).drop first) else none

/-- The bytes of a key that are hashed, cut out at the places of its braces; there are none if a cut
reaches past the last byte. -/
def hashedBytes? (key : Bytes) : Option Bytes :=
  match key.idxOf? 123 with
  | none => some key
  | some opening =>
    (slice? key (opening + 1) key.length).bind fun inner =>
      match inner.idxOf? 125 with
      | none => some key
      | some length =>
        if 0 < length then slice? key (opening + 1) (opening + 1 + length) else some key

/-- What stands behind some bytes can be cut out. -/
theorem slice?_append (front content rest : Bytes) :
    slice? (front ++ (content ++ rest)) front.length (front.length + content.length) =
      some content := by
  -- The cut ends within the bytes.
  have inside : front.length ≤ front.length + content.length ∧
      front.length + content.length ≤ (front ++ (content ++ rest)).length := by
    simp only [List.length_append]
    omega
  rw [slice?, if_pos inside, ← List.append_assoc, ← List.length_append, List.take_left,
    List.drop_left]

/-- What stands behind an opening brace can be cut out. -/
theorem slice?_behind (front content rest : Bytes) :
    slice? (front ++ 123 :: (content ++ rest)) (front.length + 1)
      (front.length + 1 + content.length) = some content := by
  have parted := slice?_append (front ++ [123]) content rest
  simpa using parted

/-- No cut reaches past the last byte, and what is cut out is the tag, or the key without one. -/
theorem hashedBytes?_eq (key : Bytes) : hashedBytes? key = some ((hashTag? key).getD key) := by
  rcases braces_cases key with unopened | ⟨front, inner, rfl, unopened, unclosed⟩ |
    ⟨front, content, rest, rfl, unopened, unclosed⟩
  -- Without a brace nothing is cut.
  · rw [hashedBytes?, List.idxOf?_eq_none_iff.2 unopened, hashTag?_of_unopened unopened,
      Option.getD_none]
  · -- The slice behind the opening brace ends where the key ends.
    have behind := slice?_behind front inner []
    have whole : (front ++ 123 :: inner).length = front.length + 1 + inner.length := by
      simp only [List.length_append, List.length_cons]
      omega
    rw [List.append_nil] at behind
    rw [hashedBytes?, idxOf?_brace unopened, hashTag?_of_unclosed unopened unclosed, whole]
    simp only [behind, Option.bind_some, List.idxOf?_eq_none_iff.2 unclosed, Option.getD_none]
  -- The tag ends before the closing brace, which is still in the key.
  · have behind := slice?_behind front (content ++ 125 :: rest) []
    have between := slice?_behind front content (125 :: rest)
    have whole : (front ++ 123 :: (content ++ 125 :: rest)).length =
        front.length + 1 + (content ++ 125 :: rest).length := by
      simp only [List.length_append, List.length_cons]
      omega
    rw [List.append_nil] at behind
    rw [hashedBytes?, idxOf?_brace unopened, hashTag?_of_braces unopened unclosed, whole]
    simp only [behind, Option.bind_some, idxOf?_brace unclosed, between]
    -- An empty tag is the one with no byte before the closing brace.
    by_cases filled : content = []
    · simp [filled]
    · simp [filled, List.length_pos_iff.2 filled]

end Places

section Slots

open Crc16 Polynomial

/-- A key with a tag has the slot of this tag, whatever stands around it, and a key without one has
the slot of all its bytes; so a key shares its slot with what is hashed of it and with all keys of
the same tag. The slot is one of those that there are, finding the tag reaches past no end, and what
decides is the remainder of the hashed bytes in the division by the generator. -/
theorem keySlot_decided_by_tag (key : Bytes) :
    (∀ tag, Tagged key tag →
      keySlot key = keySlot tag ∧ keySlot tag = (checksum tag).toNat % 16384) ∧
    ((¬ ∃ tag, Tagged key tag) → keySlot key = (checksum key).toNat % 16384) ∧
    keySlot ((hashTag? key).getD key) = keySlot key ∧
    (∀ tag other, Tagged key tag → Tagged other tag → keySlot other = keySlot key) ∧
    (hashedBytes? key = some ((hashTag? key).getD key) ∧ keySlot key < 16384) ∧
    ∀ bytes, ofBits 16 (checksum bytes).toNat = (X ^ 16 * message bytes) %ₘ generator := by
  -- What is hashed of a tag is all of it, for it has no tag.
  have by_tag : ∀ tag, Tagged key tag →
      keySlot key = keySlot tag ∧ keySlot tag = (checksum tag).toNat % 16384 := by
    intro tag tagged
    have again := keySlot_of_untagged tagged.untagged
    exact ⟨tagged.keySlot_eq.trans again.symm, again⟩
  refine ⟨by_tag, fun untagged => keySlot_of_untagged (not_exists.1 untagged), ?_, ?_,
    ⟨hashedBytes?_eq key, Nat.mod_lt _ (by decide)⟩, ofBits_checksum⟩
  -- The key is hashed as a whole, or its tag is.
  · cases found : hashTag? key with
    | none => rfl
    | some tag => exact (by_tag tag (hashTag?_eq_some_iff.1 found)).1.symm
  · intro tag other tagged also
    rw [tagged.keySlot_eq, also.keySlot_eq]

/-- Braces before, in and behind the tag of a key do not count: that of a}{{b}}{c} is {b. -/
theorem keySlot_decided_by_tag_amid_braces :
    Tagged (Utf8.encode "a\x7d\x7b\x7bb\x7d\x7d\x7bc\x7d") (Utf8.encode "\x7bb") ∧
      keySlot (Utf8.encode "a\x7d\x7b\x7bb\x7d\x7d\x7bc\x7d") = keySlot (Utf8.encode "\x7bb") := by
  have tagged : Tagged (Utf8.encode "a\x7d\x7b\x7bb\x7d\x7d\x7bc\x7d") (Utf8.encode "\x7bb") :=
    -- Two opening braces stand side by side, and the first one counts.
    ⟨Utf8.encode "a\x7d", Utf8.encode "\x7d\x7bc\x7d", by decide, by decide, by decide, by decide⟩
  exact ⟨tagged, ((keySlot_decided_by_tag _).1 _ tagged).1⟩

end Slots

end RedisCluster
