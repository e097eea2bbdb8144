import RedisCluster.Text.Utf8

/-! Texts written as UTF-8 are read back as they were. -/

namespace RedisCluster.Utf8

/-- A byte is read in the state that the bytes before it left behind. -/
theorem scan_cons (state : Option Unfinished) (byte : UInt8) (rest : Bytes) :
    scan state (byte :: rest) = (push state byte).1 ++ scan (push state byte).2 rest := by
  cases state <;> rfl

/-- The last byte of a character completes it. -/
theorem scan_last {byte : UInt8} {low high value : Nat} (within : low ≤ byte.toNat)
    (bounded : byte.toNat ≤ high) (rest : Bytes) :
    scan (some ⟨0, low, high, value⟩) (byte :: rest) =
      some (Char.ofNat (value * 64 + (byte.toNat - 0x80))) :: scan none rest := by
  simp [scan_cons, push, within, bounded]

/-- A byte in the middle of a character leaves one byte fewer to come. -/
theorem scan_middle {byte : UInt8} {missing low high value : Nat} (within : low ≤ byte.toNat)
    (bounded : byte.toNat ≤ high) (rest : Bytes) :
    scan (some ⟨missing + 1, low, high, value⟩) (byte :: rest) =
      scan (some ⟨missing, 0x80, 0xBF, value * 64 + (byte.toNat - 0x80)⟩) rest := by
  simp [scan_cons, push, within, bounded]

/-- A byte that opens a character leaves the rest of the character to come. -/
theorem scan_lead {byte : UInt8} {unfinished : Unfinished} (opening : lead byte = .opens unfinished)
    (rest : Bytes) : scan none (byte :: rest) = scan (some unfinished) rest := by
  simp [scan_cons, push, start, opening]

/-- A byte below 128 is a character of its own. -/
theorem scan_ascii {byte : UInt8} (small : byte.toNat < 0x80) (rest : Bytes) :
    scan none (byte :: rest) = some (Char.ofNat byte.toNat) :: scan none rest := by
  simp [scan_cons, push, start, lead, small]

/-- A byte built from a number below 256 is that number. -/
theorem toNat_ofNat {n : Nat} (small : n < 256) : (UInt8.ofNat n).toNat = n := by
  simpa using small

/-- The first byte of a character of two leaves its other byte to come. -/
theorem scan_lead_two {byte : UInt8} {top : Nat} (first : byte.toNat = top + 0xC0)
    (minimal : 2 ≤ top) (small : top < 0x20) (rest : Bytes) :
    scan none (byte :: rest) = scan (some ⟨0, 0x80, 0xBF, top⟩) rest := by
  refine scan_lead ?_ rest
  -- The number of the byte picks the branch of `lead`.
  have notAscii : ¬ byte.toNat < 0x80 := by omega
  have notStray : ¬ byte.toNat < 0xC2 := by omega
  have two : byte.toNat < 0xE0 := by omega
  simp only [lead, notAscii, notStray, two, if_true, if_false]
  simp [first]

/-- The first two bytes of a character of three leave its last byte to come, unless they open an
overlong form or a surrogate. -/
theorem scan_lead_three {byte next : UInt8} {top middle : Nat} (first : byte.toNat = top + 0xE0)
    (second : next.toNat = middle + 0x80) (small : top < 0x10) (bounded : middle < 0x40)
    (minimal : top = 0 → 0x20 ≤ middle) (proper : top = 13 → middle < 0x20) (rest : Bytes) :
    scan none (byte :: next :: rest) = scan (some ⟨0, 0x80, 0xBF, top * 64 + middle⟩) rest := by
  have notAscii : ¬ byte.toNat < 0x80 := by omega
  have notStray : ¬ byte.toNat < 0xC2 := by omega
  have notTwo : ¬ byte.toNat < 0xE0 := by omega
  have three : byte.toNat < 0xF0 := by omega
  -- The bounds of the second byte depend on the first one: `E0` excludes overlong forms by a higher
  -- lower bound, `ED` excludes surrogates by a lower upper bound.
  by_cases lowest : top = 0
  · -- Below `A0` the form would be overlong.
    have opening : lead byte = .opens ⟨1, 0xA0, 0xBF, 0⟩ := by
      simp [lead, first, lowest]
    rw [scan_lead opening, scan_middle (by have := minimal lowest; omega) (by omega)]
    simp [second, lowest]
  by_cases surrogate : top = 13
  · -- Above `9F` it would be a surrogate.
    have opening : lead byte = .opens ⟨1, 0x80, 0x9F, 0xD⟩ := by
      simp [lead, first, surrogate]
    rw [scan_lead opening, scan_middle (by omega) (by have := proper surrogate; omega)]
    simp [second, surrogate]
  · -- All others leave the second byte free.
    have opening : lead byte = .opens ⟨1, 0x80, 0xBF, top⟩ := by
      have notLowest : ¬ byte.toNat = 0xE0 := by omega
      have notSurrogate : ¬ byte.toNat = 0xED := by omega
      simp [lead, notAscii, notStray, notTwo, three, notLowest, notSurrogate]
      omega
    rw [scan_lead opening, scan_middle (by omega) (by omega)]
    simp [second]

/-- The first two bytes of a character of four leave its last two bytes to come, unless they open
an overlong form or go beyond the last character. -/
theorem scan_lead_four {byte next : UInt8} {top middle : Nat} (first : byte.toNat = top + 0xF0)
    (second : next.toNat = middle + 0x80) (small : top ≤ 4) (bounded : middle < 0x40)
    (minimal : top = 0 → 0x10 ≤ middle) (proper : top = 4 → middle < 0x10) (rest : Bytes) :
    scan none (byte :: next :: rest) = scan (some ⟨1, 0x80, 0xBF, top * 64 + middle⟩) rest := by
  -- As with three bytes, but the upper bound of the second one is that of the code space.
  by_cases lowest : top = 0
  · -- Below `90` the form would be overlong.
    have opening : lead byte = .opens ⟨2, 0x90, 0xBF, 0⟩ := by
      simp [lead, first, lowest]
    rw [scan_lead opening, scan_middle (by have := minimal lowest; omega) (by omega)]
    simp [second, lowest]
  by_cases highest : top = 4
  · -- Above `8F` it would lie beyond the last character.
    have opening : lead byte = .opens ⟨2, 0x80, 0x8F, 4⟩ := by
      simp [lead, first, highest]
    rw [scan_lead opening, scan_middle (by omega) (by have := proper highest; omega)]
    simp [second, highest]
  · -- All others leave the second byte free.
    have opening : lead byte = .opens ⟨2, 0x80, 0xBF, top⟩ := by
      have between : top = 1 ∨ top = 2 ∨ top = 3 := by omega
      rcases between with rfl | rfl | rfl <;> simp [lead, first]
    rw [scan_lead opening, scan_middle (by omega) (by omega)]
    simp [second]

/-- The bytes of a character read as that character. -/
theorem scan_utf8EncodeChar (c : Char) (rest : Bytes) :
    scan none (String.utf8EncodeChar c ++ rest) = some c :: scan none rest := by
  have same : Char.ofNat c.val.toNat = c := Char.ofNat_toNat c
  have valid : c.val.toNat < 0xD800 ∨ (0xDFFF < c.val.toNat ∧ c.val.toNat < 0x110000) := c.valid
  unfold String.utf8EncodeChar
  -- From here on the character is its number, and one case stands for each length of its encoding.
  generalize c.val.toNat = v at same valid
  dsimp only
  -- The bytes behind the first carry six bits each.
  have last : (UInt8.ofNat (v % 64 + 128)).toNat = v % 64 + 128 := toNat_ofNat (by omega)
  have third : (UInt8.ofNat (v / 64 % 64 + 128)).toNat = v / 64 % 64 + 128 :=
    toNat_ofNat (by omega)
  split
  · -- One byte: the character itself.
    have first := toNat_ofNat (n := v) (by omega)
    rw [List.singleton_append, scan_ascii (by omega), first, same]
  split
  · -- Two bytes: five bits and six.
    have first := toNat_ofNat (n := v / 64 % 32 + 192) (by omega)
    have whole : v / 64 % 32 * 64 + (v % 64 + 128 - 0x80) = v := by omega
    rw [List.cons_append, List.singleton_append, scan_lead_two first (by omega) (by omega),
      scan_last (by omega) (by omega), last, whole, same]
  split
  · -- Three bytes: what the second one must not be is what makes a character valid.
    have first := toNat_ofNat (n := v / 4096 % 16 + 224) (by omega)
    have whole : (v / 4096 % 16 * 64 + v / 64 % 64) * 64 + (v % 64 + 128 - 0x80) = v := by omega
    simp only [List.cons_append, List.nil_append]
    rw [scan_lead_three first third (by omega) (by omega) (by omega) (by omega),
      scan_last (by omega) (by omega), last, whole, same]
  · -- Four bytes: the bound of the second one is that of all characters.
    have first := toNat_ofNat (n := v / 262144 % 8 + 240) (by omega)
    have second := toNat_ofNat (n := v / 4096 % 64 + 128) (by omega)
    have whole : ((v / 262144 % 8 * 64 + v / 4096 % 64) * 64 + (v / 64 % 64 + 128 - 0x80)) * 64 +
        (v % 64 + 128 - 0x80) = v := by omega
    simp only [List.cons_append, List.nil_append]
    rw [scan_lead_four first second (by omega) (by omega) (by omega) (by omega),
      scan_middle (by omega) (by omega), scan_last (by omega) (by omega), third, last, whole, same]

/-- The bytes of characters read as these characters, each of them whole. -/
theorem scan_encoded (chars : List Char) :
    scan none (chars.flatMap String.utf8EncodeChar) = chars.map some := by
  induction chars with
  | nil => rfl
  | cons c rest ih => rw [List.flatMap_cons, scan_utf8EncodeChar, ih, List.map_cons]

/-- The bytes of characters read as these characters. -/
theorem scan_chars (chars : List Char) :
    (scan none (chars.flatMap String.utf8EncodeChar)).mapM id = some chars := by
  rw [scan_encoded]
  induction chars with
  | nil => rfl
  | cons c rest ih => simp [ih]

/-- A text is read back from its bytes. -/
@[simp] theorem decode?_encode (text : String) : decode? (encode text) = some text := by
  rw [decode?, encode, scan_chars, Option.map_some, String.ofList_toList]

/-- In the bytes of a text nothing is malformed, so nothing is replaced. -/
@[simp] theorem lossy_encode (text : String) : lossy (encode text) = text := by
  have kept : (text.toList.map some).map (·.getD '\uFFFD') = text.toList := by
    rw [List.map_map]
    exact List.map_id _
  rw [lossy, encode, scan_encoded, kept, String.ofList_toList]

/-- An ASCII character is one byte, and every byte of another character is at least 128. -/
theorem utf8EncodeChar_cases (c : Char) :
    (c.toNat < 0x80 ∧ String.utf8EncodeChar c = [UInt8.ofNat c.toNat]) ∨
      (0x80 ≤ c.toNat ∧ ∀ byte ∈ String.utf8EncodeChar c, 0x80 ≤ byte.toNat) := by
  have value : c.val.toNat = c.toNat := rfl
  unfold String.utf8EncodeChar
  rw [value]
  dsimp only
  -- Every byte of a longer form has its highest bit set.
  have high : ∀ n, 0x80 ≤ n → n < 0x100 → 0x80 ≤ (UInt8.ofNat n).toNat := by
    intro n large small
    rw [toNat_ofNat small]
    exact large
  split
  · exact .inl ⟨by omega, rfl⟩
  right
  refine ⟨by omega, ?_⟩
  split
  · simp only [List.forall_mem_cons, List.not_mem_nil, false_implies, implies_true, and_true]
    exact ⟨high _ (by omega) (by omega), high _ (by omega) (by omega)⟩
  split
  · simp only [List.forall_mem_cons, List.not_mem_nil, false_implies, implies_true, and_true]
    exact ⟨high _ (by omega) (by omega), high _ (by omega) (by omega), high _ (by omega) (by omega)⟩
  · simp only [List.forall_mem_cons, List.not_mem_nil, false_implies, implies_true, and_true]
    exact ⟨high _ (by omega) (by omega), high _ (by omega) (by omega), high _ (by omega) (by omega),
      high _ (by omega) (by omega)⟩

/-- An ASCII byte among the bytes of a character is all of it. -/
theorem utf8EncodeChar_of_mem {c : Char} {byte : UInt8} (ascii : byte.toNat < 0x80)
    (member : byte ∈ String.utf8EncodeChar c) :
    c = Char.ofNat byte.toNat ∧ String.utf8EncodeChar c = [byte] := by
  rcases utf8EncodeChar_cases c with ⟨small, whole⟩ | ⟨_, large⟩
  · rw [whole, List.mem_singleton] at member
    have value : byte.toNat = c.toNat := by rw [member]; exact toNat_ofNat (by omega)
    rw [value, whole, member]
    exact ⟨(Char.ofNat_toNat c).symm, rfl⟩
  · -- The bytes of other characters are too large to be ASCII.
    have := large byte member
    omega

/-- Where the bytes of characters begin with an ASCII byte, the characters begin with its
character. -/
theorem head_of_encoded {byte : UInt8} (ascii : byte.toNat < 0x80) {chars : List Char}
    (front : [byte] <+: chars.flatMap String.utf8EncodeChar) :
    [Char.ofNat byte.toNat] <+: chars := by
  cases chars with
  | nil => simp at front
  | cons c rest =>
    have member : byte ∈ String.utf8EncodeChar c := by
      rw [List.flatMap_cons] at front
      -- No character is without bytes, so the first byte is one of the first character.
      cases whole : String.utf8EncodeChar c with
      | nil => exact absurd whole (by simp)
      | cons first others =>
        simp only [whole, List.cons_append, List.cons_prefix_cons] at front
        simp [front.1]
    simp [(utf8EncodeChar_of_mem ascii member).1]

/-- Two ASCII bytes in a row are in the bytes of a text only where its characters have them in a
row. -/
theorem infix_of_encoded {first second : UInt8} (ascii : first.toNat < 0x80)
    (asciiToo : second.toNat < 0x80) {chars : List Char}
    (found : [first, second] <:+: chars.flatMap String.utf8EncodeChar) :
    [Char.ofNat first.toNat, Char.ofNat second.toNat] <:+: chars := by
  induction chars with
  | nil => simp at found
  | cons c rest ih =>
    rw [List.flatMap_cons] at found
    rw [List.infix_cons_iff]
    rcases utf8EncodeChar_cases c with ⟨small, whole⟩ | ⟨_, large⟩
    · -- The character is one byte: what was found begins with it or lies behind it.
      rw [whole, List.singleton_append, List.infix_cons_iff, List.cons_prefix_cons] at found
      rcases found with ⟨rfl, front⟩ | later
      · -- The second byte begins the rest, so its character does.
        left
        rw [toNat_ofNat (by omega), Char.ofNat_toNat, List.cons_prefix_cons]
        exact ⟨rfl, head_of_encoded asciiToo front⟩
      · exact .inr (ih later)
    · right
      -- No byte of this character is ASCII, so what was found lies behind all of them.
      apply ih
      generalize String.utf8EncodeChar c = bytes at found large
      induction bytes with
      | nil => exact found
      | cons byte bytes skip =>
        rw [List.cons_append, List.infix_cons_iff, List.cons_prefix_cons] at found
        rcases found with ⟨rfl, _⟩ | later
        · have := large first (List.mem_cons_self ..)
          omega
        · exact skip later fun b member => large b (List.mem_cons_of_mem _ member)

/-- The bytes of ASCII characters are these characters one by one. -/
theorem chars_of_ascii {chars : List Char} (ascii : ∀ c ∈ chars, c.toNat < 0x80) :
    (chars.flatMap String.utf8EncodeChar).map (fun byte => Char.ofNat byte.toNat) = chars := by
  induction chars with
  | nil => rfl
  | cons c rest ih =>
    have small := ascii c (List.mem_cons_self ..)
    have whole : String.utf8EncodeChar c = [UInt8.ofNat c.toNat] := by
      rcases utf8EncodeChar_cases c with ⟨_, whole⟩ | ⟨large, _⟩
      · exact whole
      · omega
    rw [List.flatMap_cons, List.map_append, ih fun d member => ascii d (List.mem_cons_of_mem _ member),
      whole, List.map_singleton, toNat_ofNat (by omega), Char.ofNat_toNat]
    rfl

end RedisCluster.Utf8
