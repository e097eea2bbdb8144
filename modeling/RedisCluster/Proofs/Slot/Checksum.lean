import Mathlib.Algebra.CharP.Two
import Mathlib.Algebra.Field.ZMod
import Mathlib.Algebra.Polynomial.Div
import Mathlib.Data.Nat.Bitwise
import Mathlib.RingTheory.AdjoinRoot
import RedisCluster.Slot

/-! The checksum of a byte string is the remainder of a division of polynomials over the field with
two elements, whose coefficients are the bits. -/

namespace RedisCluster.Crc16

open Polynomial

/-- The polynomial whose coefficients are the lowest bits of a number. -/
noncomputable def ofBits (width number : Nat) : (ZMod 2)[X] :=
  ∑ place ∈ Finset.range width, if number.testBit place then X ^ place else 0

/-- The polynomial of a byte string, in which the highest bit of the first byte leads. -/
noncomputable def message (bytes : Bytes) : (ZMod 2)[X] :=
  bytes.foldl (fun front byte => front * X ^ 8 + ofBits 8 byte.toNat) 0

/-- The polynomial that messages are divided by. -/
noncomputable def generator : (ZMod 2)[X] :=
  X ^ 16 + X ^ 12 + X ^ 5 + 1

section Bits

/-- Bits that are combined by exclusive or are added. -/
theorem ofBits_xor (width a b : Nat) :
    ofBits width (a ^^^ b) = ofBits width a + ofBits width b := by
  rw [ofBits, ofBits, ofBits, ← Finset.sum_add_distrib]
  refine Finset.sum_congr rfl fun place _ => ?_
  -- Where both bits are set, they cancel out.
  cases first : a.testBit place <;> cases second : b.testBit place <;>
    simp [Nat.testBit_xor, first, second, CharTwo.add_self_eq_zero]

/-- The bits of a number reach no further than they are counted. -/
theorem degree_ofBits_lt (width number : Nat) : (ofBits width number).degree < width := by
  -- A sum of powers has no more places than the highest of them.
  have room : (⊥ : WithBot Nat) < width := WithBot.bot_lt_coe width
  refine (Polynomial.degree_sum_le _ _).trans_lt ((Finset.sup_lt_iff room).2 fun place inside => ?_)
  split
  · rw [degree_X_pow]
    exact_mod_cast Finset.mem_range.1 inside
  · rw [degree_zero]
    exact room

/-- Bits that move up by some places are multiplied by a power, if none is lost at the top. -/
theorem ofBits_shiftLeft (count width number : Nat) :
    ofBits (count + width) (number <<< count) = X ^ count * ofBits width number := by
  -- The lowest places are empty after the move.
  have low : ∑ place ∈ Finset.range count,
      (if (number <<< count).testBit place then (X ^ place : (ZMod 2)[X]) else 0) = 0 := by
    refine Finset.sum_eq_zero fun place inside => ?_
    have below : ¬ count ≤ place := by simpa using inside
    simp [Nat.testBit_shiftLeft, below]
  rw [ofBits, Finset.sum_range_add, low, zero_add, ofBits, Finset.mul_sum]
  refine Finset.sum_congr rfl fun place _ => ?_
  cases bit : number.testBit place <;> simp [Nat.testBit_shiftLeft, bit, pow_add]

/-- Bits that are not counted do not matter. -/
theorem ofBits_mod (width number : Nat) :
    ofBits width (number % 2 ^ width) = ofBits width number := by
  refine Finset.sum_congr rfl fun place inside => ?_
  -- Below the width a bit of the remainder is a bit of the number.
  rw [Nat.testBit_mod_two_pow, decide_eq_true (Finset.mem_range.1 inside), Bool.true_and]

/-- The highest of the counted bits leads. -/
theorem ofBits_succ (width number : Nat) :
    ofBits (width + 1) number =
      ofBits width number + if number.testBit width then X ^ width else 0 :=
  Finset.sum_range_succ _ _

end Bits

section Generator

/-- The leading coefficient of the generator is one. -/
theorem monic_generator : generator.Monic := by
  rw [generator]
  monicity!

/-- The generator has sixteen places behind the leading one. -/
theorem degree_generator : generator.degree = 16 := by
  rw [generator]
  compute_degree!

/-- The bits by which a checksum is reduced are those of the generator behind the leading one. -/
theorem ofBits_reduction : ofBits 16 0x1021 = X ^ 12 + X ^ 5 + 1 := by
  -- Three of the bits are set.
  simp [ofBits, Finset.sum_range_succ, Nat.testBit, Nat.shiftRight_eq_div_pow]
  ring

/-- Up to multiples of the generator, its leading place is made up of the others. -/
theorem root_pow_eq : AdjoinRoot.root generator ^ 16 =
    AdjoinRoot.mk generator (ofBits 16 0x1021) := by
  rw [← AdjoinRoot.mk_X, ← map_pow, AdjoinRoot.mk_eq_mk, ofBits_reduction]
  -- Signs do not matter, so the two differ by the generator itself.
  refine dvd_of_eq ?_
  rw [generator, CharTwo.sub_eq_add]
  ring

end Generator

section Steps

/-- A checksum up to multiples of the generator. -/
noncomputable def residue (crc : UInt16) : AdjoinRoot generator :=
  AdjoinRoot.mk generator (ofBits 16 crc.toNat)

/-- Checksums that are combined by exclusive or are added. -/
theorem residue_xor (a b : UInt16) : residue (a ^^^ b) = residue a + residue b := by
  rw [residue, UInt16.toNat_xor, ofBits_xor, map_add, residue, residue]

/-- Moving a checksum up by one place multiplies it by the indeterminate, but for the bit that is
lost at the top. -/
theorem residue_shiftLeft_one (crc : UInt16) :
    AdjoinRoot.root generator * residue crc =
      residue (crc <<< 1) + if crc.toNat.testBit 15 then AdjoinRoot.root generator ^ 16 else 0 := by
  -- The top bit moves out of the sixteen places.
  have moved : (crc <<< 1).toNat = (crc.toNat <<< 1) % 2 ^ 16 := UInt16.toNat_shiftLeft crc 1
  have top : (crc.toNat <<< 1).testBit 16 = crc.toNat.testBit 15 := by
    simp [Nat.testBit_shiftLeft]
  -- With a place more for it, no bit is lost.
  have whole : X * ofBits 16 crc.toNat =
      ofBits 16 (crc <<< 1).toNat + if crc.toNat.testBit 15 then X ^ 16 else 0 := by
    rw [moved, ofBits_mod, ← top, ← ofBits_succ, show 16 + 1 = 1 + 16 from rfl, ofBits_shiftLeft,
      pow_one]
  have images := congrArg (AdjoinRoot.mk generator) whole
  rw [map_mul, map_add, AdjoinRoot.mk_X] at images
  rw [residue, residue, images]
  -- The bit that was lost is set or not.
  split
  · rw [map_pow, AdjoinRoot.mk_X]
  · rw [map_zero]

/-- The test for the highest bit of a checksum is what it should be. -/
theorem and_top_eq_zero_iff (crc : UInt16) : crc &&& 0x8000 = 0 ↔ crc.toNat.testBit 15 = false := by
  -- Masking leaves the highest bit alone.
  have masked : (crc &&& 0x8000).toNat = (crc.toNat.testBit 15).toNat * 2 ^ 15 := by
    rw [UInt16.toNat_and]
    exact Nat.and_two_pow crc.toNat 15
  rw [← UInt16.toNat_inj, masked]
  cases crc.toNat.testBit 15 <;> simp

/-- A shift multiplies by the indeterminate. -/
theorem residue_shift (crc : UInt16) :
    residue (shift crc) = AdjoinRoot.root generator * residue crc := by
  rw [residue_shiftLeft_one, shift]
  by_cases low : crc &&& 0x8000 = 0
  -- With an unset top bit nothing is lost.
  · rw [if_pos low, (and_top_eq_zero_iff crc).1 low, if_neg Bool.false_ne_true, add_zero]
  · -- The bit that is lost stands for the bits that are taken in.
    have top : crc.toNat.testBit 15 = true :=
      Bool.eq_true_of_not_eq_false fun unset => low ((and_top_eq_zero_iff crc).2 unset)
    rw [if_neg low, residue_xor, top, if_pos rfl, root_pow_eq]
    rfl

/-- A byte that is taken in goes behind the highest place of the checksum. -/
theorem residue_byte (byte : UInt8) : residue (byte.toUInt16 <<< 8) =
    AdjoinRoot.root generator ^ 8 * AdjoinRoot.mk generator (ofBits 8 byte.toNat) := by
  -- Eight bits and eight empty places are sixteen.
  have moved : (byte.toUInt16 <<< 8).toNat = (byte.toNat <<< 8) % 2 ^ 16 := by
    rw [UInt16.toNat_shiftLeft, UInt8.toNat_toUInt16]
    rfl
  rw [residue, moved, ofBits_mod, show 16 = 8 + 8 from rfl, ofBits_shiftLeft, map_mul, map_pow,
    AdjoinRoot.mk_X]

/-- Taking in a byte is a step of the division. -/
theorem residue_push (crc : UInt16) (byte : UInt8) :
    residue (push crc byte) = AdjoinRoot.root generator ^ 8 * residue crc +
      AdjoinRoot.root generator ^ 16 * AdjoinRoot.mk generator (ofBits 8 byte.toNat) := by
  -- A byte is eight shifts.
  simp only [push, residue_shift, residue_xor, residue_byte]
  ring

/-- The checksum of a byte string is its polynomial, moved up by sixteen places, up to multiples of
the generator. -/
theorem residue_checksum (bytes : Bytes) : residue (checksum bytes) =
    AdjoinRoot.root generator ^ 16 * AdjoinRoot.mk generator (message bytes) := by
  -- The last byte is the last that both sides take in.
  induction bytes using List.reverseRecOn with
  | nil => simp [residue, checksum, message, ofBits]
  | append_singleton front byte ih =>
    have taken : checksum (front ++ [byte]) = push (checksum front) byte := by simp [checksum]
    have written : message (front ++ [byte]) = message front * X ^ 8 + ofBits 8 byte.toNat := by
      simp [message]
    rw [taken, residue_push, ih, written, map_add, map_mul, map_pow, AdjoinRoot.mk_X]
    ring

end Steps

/-- The checksum of a byte string is the remainder of its polynomial, moved up by sixteen places, in
the division by the generator. -/
theorem ofBits_checksum (bytes : Bytes) :
    ofBits 16 (checksum bytes).toNat = (X ^ 16 * message bytes) %ₘ generator := by
  -- A checksum has fewer places than the generator.
  have short : (ofBits 16 (checksum bytes).toNat).degree < generator.degree := by
    rw [degree_generator]
    exact degree_ofBits_lt 16 _
  -- The two differ by a multiple of the generator.
  have same : generator ∣ ofBits 16 (checksum bytes).toNat - X ^ 16 * message bytes := by
    rw [← AdjoinRoot.mk_eq_mk, map_mul, map_pow, AdjoinRoot.mk_X]
    exact residue_checksum bytes
  rw [← (modByMonic_eq_self_iff monic_generator).2 short]
  exact modByMonic_eq_of_dvd_sub monic_generator same

/-- The nine digits that such checksums are checked with. -/
example : checksum [49, 50, 51, 52, 53, 54, 55, 56, 57] = 0x31C3 := by decide +kernel

end RedisCluster.Crc16
