import Mathlib.Data.List.Forall2
import Mathlib.Data.List.TakeWhile
import Mathlib.Data.Nat.Digits.Defs
import RedisCluster.Endpoint.Spelling
import RedisCluster.Proofs.Text.Blank
import RedisCluster.Proofs.Text.Decimal

/-! The texts that are read as addresses of the sixth version are those that the grammar has for
them. -/

namespace RedisCluster

/-- Reading all items of a list is reading each of them. -/
theorem mapM_eq_some_iff {α β : Type} {read : α → Option β} {items : List α} {values : List β} :
    items.mapM read = some values ↔
      List.Forall₂ (fun item value => read item = some value) items values := by
  induction items generalizing values with
  | nil => cases values <;> simp
  | cons item rest ih =>
    cases values with
    | nil => simp [List.mapM_cons, Option.bind_eq_some_iff]
    | cons value others =>
      simp only [List.mapM_cons, Option.bind_eq_bind, Option.pure_def, Option.bind_eq_some_iff,
        Option.some.injEq, List.cons.injEq, List.forall₂_cons, ← ih]
      -- The first item is read, and so are the others, in either form.
      constructor
      · rintro ⟨first, read, remaining, all, rfl, rfl⟩
        exact ⟨read, all⟩
      · rintro ⟨read, all⟩
        exact ⟨value, read, others, all, rfl, rfl⟩

namespace Ipv6

/-- An octet is a number below 256 in its shortest notation. -/
theorem octet?_eq_some_iff {text : List Char} {n : Nat} :
    octet? text = some n ↔ text = Nat.toDigits 10 n ∧ n < 256 := by
  constructor
  · intro read
    unfold octet? at read
    split at read
    · cases read
    · rename_i short
      split at read
      · cases read
      · rename_i value found
        split at read
        · rename_i small
          obtain rfl := Option.some.inj read
          refine ⟨Decimal.eq_toDigits_of_digits found fun zero => ?_, small⟩
          -- Behind a zero in front there would be nothing.
          obtain ⟨rest, rfl⟩ := List.head?_eq_some_iff.1 zero
          cases rest with
          | nil => rfl
          | cons c rest => exact (short c rest rfl).elim
        · cases read
  · rintro ⟨rfl, small⟩
    have short : ∀ c rest, Nat.toDigits 10 n = '0' :: c :: rest → False := by
      intro c rest whole
      -- Zero is one digit, and no other number begins with it.
      rcases Nat.eq_zero_or_pos n with rfl | positive
      · rw [Nat.toDigits_zero] at whole
        simp at whole
      · exact Decimal.head_toDigits_ne_zero positive (by rw [whole]; rfl)
    rw [octet?.eq_2 _ short, Decimal.digits?_toDigits]
    exact if_pos small

/-- The decimal digits of a number hold no dot. -/
theorem dot_notMem_toDigits (n : Nat) : ∀ c ∈ Nat.toDigits 10 n, (c == '.') = false := by
  intro c member
  have digit := Decimal.isDigit_of_mem member
  -- A dot is no digit.
  rw [beq_eq_false_iff_ne]
  rintro rfl
  cases digit

/-- Two groups with dots are four octets with dots between them. -/
theorem dotted?_eq_some_iff {text : List Char} {values : List Nat} :
    dotted? text = some values ↔ ∃ a b c d, (a < 256 ∧ b < 256 ∧ c < 256 ∧ d < 256) ∧
      text = Nat.toDigits 10 a ++ '.' :: (Nat.toDigits 10 b ++ '.' ::
        (Nat.toDigits 10 c ++ '.' :: Nat.toDigits 10 d)) ∧
      values = [a * 256 + b, c * 256 + d] := by
  constructor
  · intro read
    unfold dotted? at read
    split at read
    · rename_i a b c d all
      obtain rfl := Option.some.inj read
      -- The four pieces are the four octets.
      have joined := intercalate_pieces '.' text
      generalize pieces (· == '.') text = parts at all joined
      rcases mapM_eq_some_iff.1 all with _ | ⟨first, _ | ⟨second, _ | ⟨third, _ | ⟨fourth, _ | _⟩⟩⟩⟩
      rw [octet?_eq_some_iff] at first second third fourth
      refine ⟨a, b, c, d, ⟨first.2, second.2, third.2, fourth.2⟩, ?_, rfl⟩
      rw [← joined, first.1, second.1, third.1, fourth.1]
      simp [List.intercalate_cons_cons]
    · cases read
  · rintro ⟨a, b, c, d, small, rfl, rfl⟩
    -- Each piece between dots is an octet, since digits hold no dot.
    have octet (n : Nat) (below : n < 256) : octet? (Nat.toDigits 10 n) = some n :=
      octet?_eq_some_iff.2 ⟨rfl, below⟩
    simp only [dotted?, pieces_append (dot_notMem_toDigits _) (by rfl : ('.' == '.') = true),
      pieces_of_unseparated (dot_notMem_toDigits _)]
    simp [List.mapM_cons, octet a small.1, octet b small.2.1, octet c small.2.2.1,
      octet d small.2.2.2]

/-- A decimal digit is a hexadecimal one. -/
theorem isSome_digit?_of_isDigit {c : Char} (digit : c.isDigit) : (Hex.digit? c).isSome := by
  obtain ⟨low, high⟩ := Decimal.bounds_of_isDigit digit
  simp [Hex.digit?, low, high]

/-- The decimal digits of a number below 256 look like those of a group. -/
theorem isGroup_toDigits {n : Nat} (small : n < 256) : IsGroup (Nat.toDigits 10 n) := by
  -- A number below 256 has three digits at most.
  refine ⟨Nat.toDigits_ne_nil, Nat.toDigits_length 10 n 4 (by decide) (by omega), ?_⟩
  exact fun c member => isSome_digit?_of_isDigit (Decimal.isDigit_of_mem member)

section Steps

/-- The digits in front of a text, of which a group takes no more than four. -/
def leading (text : List Char) : List Char :=
  (text.take 4).takeWhile fun c => (Hex.digit? c).isSome

variable {room : Nat} {found values low : List Nat} {gap : Option Nat}
  {digits rest text : List Char} {c : Char} {result : List Nat × Option Nat}

/-- Unless a colon comes next, the digits in front of a text decide with what follows them. -/
theorem groups?_step (plain : c ≠ ':') :
    groups? (room + 1) found gap (c :: rest) =
      match (c :: rest).drop (leading (c :: rest)).length with
      | [] => some (found ++ [hexValue (leading (c :: rest))], gap)
      | ':' :: [] => none
      | ':' :: after => groups? room (found ++ [hexValue (leading (c :: rest))]) gap after
      | '.' :: _ =>
        if leading (c :: rest) = [] ∨ room = 0 then none
        else (dotted? (c :: rest)).map fun low => (found ++ low, gap)
      | _ => none := by
  -- A double colon is none of this, so it does not matter whether there was one.
  cases gap <;> rw [groups?, if_neg plain] <;> rfl

/-- The digits in front of a text are those of a group, if a character that is no digit stops them.
-/
theorem leading_append (group : IsGroup digits) (stops : ∀ c ∈ rest.head?, Hex.digit? c = none) :
    leading (digits ++ rest) = digits := by
  obtain ⟨-, short, all⟩ := group
  rw [leading, List.take_append, List.take_of_length_le short, List.takeWhile_append_of_pos all]
  cases rest with
  | nil => simp
  | cons c rest =>
    have stop := stops c rfl
    cases 4 - digits.length <;> simp [stop]

/-- The digits in front of a text are a group, if there are any. -/
theorem isGroup_leading (given : leading text ≠ []) : IsGroup (leading text) := by
  refine ⟨given, ?_, fun c member => ?_⟩
  -- The digits were looked for among four characters only.
  · have front : leading text <+: text.take 4 := List.takeWhile_prefix _
    exact front.length_le.trans (List.length_take_le 4 text)
  · exact List.mem_takeWhile_imp (p := fun c => (Hex.digit? c).isSome) member

/-- The digits in front of a text are a front of it. -/
theorem leading_append_drop (text : List Char) :
    leading text ++ text.drop (leading text).length = text := by
  have front : leading text <+: text.take 4 := List.takeWhile_prefix _
  exact List.prefix_iff_eq_append.1 (front.trans (List.take_prefix 4 text))

/-- A group does not begin with a colon. -/
theorem IsGroup.exists_cons (group : IsGroup digits) :
    ∃ c others, digits = c :: others ∧ c ≠ ':' := by
  obtain ⟨some_digits, -, all⟩ := group
  obtain ⟨c, others, rfl⟩ := List.exists_cons_of_ne_nil some_digits
  refine ⟨c, others, rfl, ?_⟩
  rintro rfl
  -- A colon is no digit.
  exact absurd (all ':' List.mem_cons_self) (by decide)

/-- A group at the end is taken. -/
theorem groups?_last (group : IsGroup digits) :
    groups? (room + 1) found gap digits = some (found ++ [hexValue digits], gap) := by
  have taken : leading (digits ++ []) = digits := leading_append group (by simp)
  obtain ⟨c, others, rfl, plain⟩ := group.exists_cons
  rw [List.append_nil] at taken
  rw [groups?_step plain]
  simp only [taken, List.drop_length]

/-- A group before a colon is taken with this colon, if something follows. -/
theorem groups?_more (group : IsGroup digits) (more : rest ≠ []) :
    groups? (room + 1) found gap (digits ++ ':' :: rest) =
      groups? room (found ++ [hexValue digits]) gap rest := by
  have taken : leading (digits ++ ':' :: rest) = digits :=
    leading_append group (by simp [Hex.digit?])
  have behind : (digits ++ ':' :: rest).drop digits.length = ':' :: rest := List.drop_left
  obtain ⟨c, others, rfl, plain⟩ := group.exists_cons
  rw [List.cons_append] at taken behind ⊢
  rw [groups?_step plain, taken, behind]
  cases rest with
  | nil => exact absurd rfl more
  | cons next rest => rfl

/-- Digits before a dot begin two groups with dots, for which there must be room. -/
theorem groups?_octets (group : IsGroup digits) (fits : room ≠ 0)
    (dots : dotted? (digits ++ '.' :: rest) = some low) :
    groups? (room + 1) found gap (digits ++ '.' :: rest) = some (found ++ low, gap) := by
  have taken : leading (digits ++ '.' :: rest) = digits :=
    leading_append group (by simp [Hex.digit?])
  have behind : (digits ++ '.' :: rest).drop digits.length = '.' :: rest := List.drop_left
  obtain ⟨c, others, rfl, plain⟩ := group.exists_cons
  rw [List.cons_append] at taken behind dots ⊢
  rw [groups?_step plain, taken, behind]
  simp [fits, dots]

/-- A colon where a group could begin is the second one of a double colon. -/
theorem groups?_colon :
    groups? (room + 1) found none (':' :: rest) =
      groups? room (found ++ [0]) (some (found.length + 1)) rest := by
  rw [groups?, if_pos rfl]

/-- A text from which groups are read is a last group, a group before others, two groups with dots,
or a colon, where no double colon has been yet. -/
theorem groups?_cases (read : groups? (room + 1) found gap (c :: rest) = some result) :
    (c = ':' ∧ gap = none ∧
      groups? room (found ++ [0]) (some (found.length + 1)) rest = some result) ∨
    (IsGroup (c :: rest) ∧ result = (found ++ [hexValue (c :: rest)], gap)) ∨
    (∃ digits after, IsGroup digits ∧ after ≠ [] ∧ c :: rest = digits ++ ':' :: after ∧
      groups? room (found ++ [hexValue digits]) gap after = some result) ∨
    ∃ low, dotted? (c :: rest) = some low ∧ room ≠ 0 ∧ result = (found ++ low, gap) := by
  by_cases colon : c = ':'
  · subst colon
    cases gap with
    | none => exact .inl ⟨rfl, rfl, groups?_colon ▸ read⟩
    | some place => cases read
  · right
    rw [groups?_step colon] at read
    have whole := leading_append_drop (c :: rest)
    -- Without digits nothing is read: what follows them would be the text itself.
    have given : leading (c :: rest) ≠ [] := by
      intro none_taken
      simp only [none_taken, List.length_nil, List.drop_zero] at read
      split at read <;> simp_all
    have group := isGroup_leading given
    split at read
    -- The text ends behind the digits.
    · rename_i ended
      rw [ended, List.append_nil] at whole
      rw [whole] at group read
      exact .inl ⟨group, (Option.some.inj read).symm⟩
    · cases read
    -- A group is followed by a colon and more.
    · rename_i after more followed
      rw [followed] at whole
      have given : after ≠ [] := fun none => more (by rw [none])
      exact .inr (.inl ⟨leading (c :: rest), after, group, given, whole.symm, read⟩)
    -- A dot comes next, and the digits before it are read again as an octet.
    · split at read
      · cases read
      · rename_i fits
        obtain ⟨low, dots, rfl⟩ := Option.map_eq_some_iff.1 read
        exact .inr (.inr ⟨low, dots, fun full => fits (.inr full), rfl⟩)
    · cases read

end Steps

section Runs

variable {room : Nat} {found values groups : List Nat} {gap place : Option Nat}
  {front back text : List Char} {high low : List Nat} {dots : Bool}

/-- Groups with a colon behind each. -/
inductive Front : List Char → List Nat → Prop where
  | nil : Front [] []
  | more {digits rest : List Char} {values : List Nat} (group : IsGroup digits)
      (others : Front rest values) : Front (digits ++ ':' :: rest) (hexValue digits :: values)

/-- Groups with a colon behind each are groups in a row with one more colon, or nothing. -/
theorem front_iff : Front text values ↔
    text = [] ∧ values = [] ∨ ∃ listed, text = listed ++ [':'] ∧ Groups false listed values := by
  constructor
  · intro front
    induction front with
    | nil => exact .inl ⟨rfl, rfl⟩
    | more group others ih =>
      right
      obtain ⟨rfl, rfl⟩ | ⟨listed, rfl, groups⟩ := ih
      · exact ⟨_, rfl, .last group⟩
      · exact ⟨_, by simp, .more group groups⟩
  · rintro (⟨rfl, rfl⟩ | ⟨listed, rfl, groups⟩)
    · exact .nil
    · -- Where no dots are allowed, the last group is not two of them.
      generalize allowed : false = dots at groups
      induction groups with
      | last group => exact .more group .nil
      | octets => cases allowed
      | more group others ih => simpa using Front.more group (ih allowed)

/-- Groups begin as a group does. -/
theorem Groups.exists_cons (listed : Groups dots text values) :
    ∃ c rest, text = c :: rest ∧ c ≠ ':' := by
  have begins {digits rest : List Char} (group : IsGroup digits) :
      ∃ c others, digits ++ rest = c :: others ∧ c ≠ ':' := by
    obtain ⟨c, others, rfl, plain⟩ := group.exists_cons
    exact ⟨c, others ++ rest, rfl, plain⟩
  cases listed with
  | last group => exact group.exists_cons
  | octets small => exact begins (isGroup_toDigits small.1)
  | more group others => exact begins group

/-- Groups in a row are taken, as far as there is room. -/
theorem groups?_of_groups (listed : Groups dots text values) (fits : values.length ≤ room) :
    groups? room found gap text = some (found ++ values, gap) := by
  -- Each group moves from the room to what is found, so the statement is about any of both.
  induction listed generalizing room found with
  | last group =>
    cases room with
    | zero => simp at fits
    -- There must be room for a group.
    | succ room => exact groups?_last group
  | octets small =>
    -- Two groups with dots take the room of two.
    match room, fits with
    | room + 2, _ =>
      exact groups?_octets (isGroup_toDigits small.1) (Nat.succ_ne_zero room)
        (dotted?_eq_some_iff.2 ⟨_, _, _, _, small, rfl, rfl⟩)
  | more group others ih =>
    cases room with
    | zero => simp at fits
    | succ room =>
      obtain ⟨c, rest, begins, -⟩ := others.exists_cons
      rw [groups?_more group (by simp [begins]), ih (Nat.le_of_succ_le_succ fits),
        List.append_assoc]
      rfl

/-- Groups in a row or nothing are taken, as far as there is room. -/
theorem groups?_of_side (side : Side dots text values) (fits : values.length ≤ room) :
    groups? room found gap text = some (found ++ values, gap) := by
  obtain ⟨rfl, rfl⟩ | listed := side
  -- Nothing needs no room.
  · cases room <;> simp [groups?]
  · exact groups?_of_groups listed fits

/-- Of groups on both sides of a double colon it is noted where those in front end; the double
colon itself takes the room of a group. -/
theorem groups?_of_front (before : Front front high) (behind : Side true back low)
    (fits : high.length + 1 + low.length ≤ room) :
    groups? room found none (front ++ ':' :: back) =
      some (found ++ high ++ [0] ++ low, some (found.length + high.length + 1)) := by
  induction before generalizing room found with
  | nil =>
    simp only [List.length_nil] at fits
    -- The double colon comes at once, and takes the room of one.
    obtain ⟨less, rfl⟩ := Nat.exists_eq_add_of_lt (show 0 < room by omega)
    rw [Nat.zero_add, List.nil_append, groups?_colon, groups?_of_side behind (by omega)]
    simp
  | more group others ih =>
    simp only [List.length_cons] at fits
    -- The first group takes the room of one, and the others come before the double colon.
    obtain ⟨less, rfl⟩ := Nat.exists_eq_add_of_lt (show 0 < room by omega)
    rw [Nat.zero_add, List.append_assoc, List.cons_append, groups?_more group (by simp),
      ih (by omega)]
    simp only [List.length_append, List.length_cons, List.length_nil, List.append_assoc,
      List.cons_append, List.nil_append, Nat.zero_add, Option.some.injEq, Prod.mk.injEq, true_and]
    omega

/-- What a text adds to groups already found: groups in a row or nothing, or groups on both sides of
the second colon of a double one. -/
inductive Adds (room : Nat) (found : List Nat) :
    Option Nat → List Char → List Nat → Option Nat → Prop where
  | row {gap : Option Nat} {text : List Char} {values : List Nat} (side : Side true text values)
      (fits : values.length ≤ room) : Adds room found gap text (found ++ values) gap
  | around {front back : List Char} {high low : List Nat} (before : Front front high)
      (behind : Side true back low) (fits : high.length + 1 + low.length ≤ room) :
      Adds room found none (front ++ ':' :: back) (found ++ high ++ [0] ++ low)
        (some (found.length + high.length + 1))

/-- Nothing adds nothing. -/
theorem Adds.nil : Adds room found gap [] found gap := by
  have added : Adds room found gap [] (found ++ []) gap := .row (.inl ⟨rfl, rfl⟩) (Nat.zero_le _)
  rwa [List.append_nil] at added

/-- The second colon of a double one adds a group of zeros, and its place, to what follows. -/
theorem Adds.doubled
    (others : Adds room (found ++ [0]) (some (found.length + 1)) text groups place) :
    Adds (room + 1) found none (':' :: text) groups place := by
  cases others with
  | @row _ _ values side fits =>
    -- The groups behind are those of the right side, and there are none on the left.
    have enough : ([] : List Nat).length + 1 + values.length ≤ room + 1 := by
      rw [List.length_nil]
      omega
    simpa using Adds.around .nil side enough

/-- A group adds its value to what the text behind its colon adds. -/
theorem Adds.more {digits : List Char} (group : IsGroup digits) (given : text ≠ [])
    (others : Adds room (found ++ [hexValue digits]) gap text groups place) :
    Adds (room + 1) found gap (digits ++ ':' :: text) groups place := by
  cases others with
  | row side fits =>
    obtain ⟨rfl, -⟩ | listed := side
    · exact absurd rfl given
    -- One group more in the row.
    · rw [List.append_assoc]
      exact .row (.inr (.more group listed)) (Nat.succ_le_succ fits)
  | @around front back high low before behind fits =>
    -- One group more on the left side.
    have added : Adds (room + 1) found none (digits ++ ':' :: front ++ ':' :: back)
        (found ++ (hexValue digits :: high) ++ [0] ++ low)
        (some (found.length + (hexValue digits :: high).length + 1)) :=
      .around (.more group before) behind (by simp only [List.length_cons]; omega)
    simpa [Nat.add_assoc, Nat.add_comm 1] using added

/-- Reading groups is finding out what a text adds. -/
theorem groups?_eq_some_iff :
    groups? room found gap text = some (groups, place) ↔ Adds room found gap text groups place := by
  constructor
  · intro read
    -- Every step fills one group of the room, and the rest is read by the same rules.
    induction room generalizing found gap text with
    | zero =>
      cases text with
      | nil => cases read; exact .nil
      | cons c rest => simp [groups?] at read
    | succ room ih =>
      cases text with
      | nil => cases read; exact .nil
      | cons c rest =>
        obtain ⟨rfl, rfl, others⟩ | ⟨group, last⟩ | ⟨digits, after, group, given, whole, others⟩ |
          ⟨low, dots, fits, last⟩ := groups?_cases read
        -- A second colon, where no double one has been before.
        · exact .doubled (ih others)
        · cases last
          exact .row (.inr (.last group)) (Nat.le_add_left 1 room)
        -- A group, and a colon behind it.
        · rw [whole]
          exact .more group given (ih others)
        -- The two groups with dots end the text.
        · cases last
          obtain ⟨a, b, c, d, small, whole, rfl⟩ := dotted?_eq_some_iff.1 dots
          rw [whole]
          exact .row (.inr (.octets small)) (Nat.succ_le_succ (Nat.one_le_iff_ne_zero.2 fits))
  · rintro (⟨side, fits⟩ | ⟨before, behind, fits⟩)
    · exact groups?_of_side side fits
    · exact groups?_of_front before behind fits

end Runs

/-- A text of groups is at least as long as there are groups in it. -/
theorem Groups.length_le {dots : Bool} {text : List Char} {values : List Nat}
    (listed : Groups dots text values) : values.length ≤ text.length := by
  induction listed with
  | last group => exact List.length_pos_iff.2 group.1
  | octets small =>
    simp only [List.length_append, List.length_cons, List.length_nil]
    omega
  | more group others ih =>
    simp only [List.length_append, List.length_cons]
    omega

/-- The groups of an address, from those that are written and the place of its double colon. -/
def filled : Option (List Nat × Option Nat) → Option (List Nat)
  | none => none
  | some (groups, none) => if groups.length = 8 then some groups else none
  | some (groups, some gap) =>
    some (groups.take gap ++ List.replicate (8 - groups.length) 0 ++ groups.drop gap)

/-- The group of the double colon is one of those that are missing. -/
theorem filled_gap {high low : List Nat} (fewer : high.length + low.length < 8) :
    filled (some (high ++ [0] ++ low, some (high.length + 1))) =
      some (high ++ List.replicate (8 - (high.length + low.length)) 0 ++ low) := by
  have front : (high ++ [0]).length = high.length + 1 := by simp
  obtain ⟨missing, count⟩ : ∃ n, 8 - (high.length + low.length) = n + 1 :=
    ⟨7 - (high.length + low.length), by omega⟩
  -- Beside the group that was put in its place, the others are missing.
  have others : 8 - (high ++ [0] ++ low).length = missing := by
    simp only [List.length_append, List.length_cons, List.length_nil]
    omega
  simp only [filled, ← front, List.take_left, List.drop_left]
  rw [others, count, List.replicate_succ]
  simp

section Parse

variable {text rest : List Char} {groups : List Nat} {c next : Char}

/-- Behind a double colon at the front there is room for seven groups. -/
theorem parse?_of_gap : parse? (':' :: ':' :: rest) = filled (groups? 7 [0] (some 1) rest) :=
  rfl

/-- A single colon is not a beginning. -/
theorem parse?_of_colon (single : next ≠ ':') : parse? (':' :: next :: rest) = none := by
  simp [parse?, single]

/-- Any other text is read group by group. -/
theorem parse?_of_plain (plain : c ≠ ':') :
    parse? (c :: next :: rest) = filled (groups? 8 [] none (c :: next :: rest)) := by
  unfold parse?
  simp only [if_pos plain]
  rfl

/-- An address has as many groups as were read, and those that are missing. -/
theorem exists_read {read : Option (List Nat × Option Nat)} (full : filled read = some groups) :
    ∃ found place, read = some (found, place) ∧ filled (some (found, place)) = some groups := by
  cases read with
  | none => cases full
  | some result => exact ⟨result.1, result.2, rfl, full⟩

/-- What is read behind a double colon at the front makes an address. -/
theorem literal_of_gap (full : filled (groups? 7 [0] (some 1) rest) = some groups) :
    Literal (':' :: ':' :: rest) groups := by
  obtain ⟨found, place, read, full⟩ := exists_read full
  cases groups?_eq_some_iff.1 read with
  | @row _ _ values side fits =>
    -- There are no groups in front.
    have fewer : ([] : List Nat).length + values.length < 8 := by
      rw [List.length_nil]
      omega
    obtain rfl := Option.some.inj ((filled_gap fewer).symm.trans full)
    exact .gap (.inl ⟨rfl, rfl⟩) side fewer

/-- What is read from the first group on makes an address. -/
theorem literal_of_plain (plain : c ≠ ':')
    (full : filled (groups? 8 [] none (c :: rest)) = some groups) : Literal (c :: rest) groups := by
  obtain ⟨found, place, read, full⟩ := exists_read full
  generalize whole : c :: rest = text at read ⊢
  cases groups?_eq_some_iff.1 read with
  | row side fits =>
    obtain ⟨rfl, -⟩ | listed := side
    -- Without a double colon there must be eight groups.
    · cases whole
    · simp only [filled, List.nil_append, Option.ite_none_right_eq_some, Option.some.injEq] at full
      obtain ⟨eight, rfl⟩ := full
      exact .full listed eight
  | @around front back high low before behind fits =>
    have fewer : high.length + low.length < 8 := by omega
    rw [List.nil_append, List.length_nil, Nat.zero_add, filled_gap fewer] at full
    obtain rfl := Option.some.inj full
    -- A double colon at the front would have begun the text.
    obtain ⟨rfl, -⟩ | ⟨listed, rfl, groups⟩ := front_iff.1 before
    · exact absurd (List.cons.inj whole).1 plain
    · rw [List.append_assoc]
      exact .gap (.inr groups) behind fewer

/-- An address is read as the grammar has it. -/
theorem parse?_eq_some_iff : parse? text = some groups ↔ Literal text groups := by
  constructor
  · intro read
    -- A text of fewer than two characters is no address.
    match text with
    | [] => cases read
    | [c] => cases read
    | c :: next :: rest =>
      by_cases colon : c = ':'
      · subst colon
        by_cases double : next = ':'
        · subst double
          exact literal_of_gap (parse?_of_gap ▸ read)
        · rw [parse?_of_colon double] at read
          cases read
      · exact literal_of_plain colon (parse?_of_plain colon ▸ read)
  · intro literal
    cases literal with
    | full listed eight =>
      -- Eight groups are more than one character, and the first one begins with no colon.
      have long := listed.length_le
      obtain ⟨c, tail, rfl, plain⟩ := listed.exists_cons
      obtain ⟨next, rest, rfl⟩ : ∃ next rest, tail = next :: rest :=
        List.exists_cons_of_length_pos (by rw [eight, List.length_cons] at long; omega)
      rw [parse?_of_plain plain, groups?_of_groups listed (Nat.le_of_eq eight)]
      simp [filled, eight]
    | @gap front back high low before behind fewer =>
      obtain ⟨rfl, rfl⟩ | before := before
      -- There are no groups in front, so the double colon is at the front.
      · have fits : low.length ≤ 7 := by
          rw [List.length_nil] at fewer
          omega
        rw [List.nil_append, parse?_of_gap, groups?_of_side behind fits]
        exact filled_gap fewer
      -- The groups in front are read up to the second colon of the double one.
      · have read : groups? 8 [] none (front ++ [':'] ++ ':' :: back) =
            some ([] ++ high ++ [0] ++ low, some (0 + high.length + 1)) :=
          groups?_of_front (front_iff.2 (.inr ⟨front, rfl, before⟩)) behind (by omega)
        rw [List.append_assoc, List.singleton_append, List.nil_append, Nat.zero_add] at read
        obtain ⟨c, rest, rfl, plain⟩ := before.exists_cons
        obtain ⟨next, others, whole⟩ : ∃ next others, rest ++ ':' :: ':' :: back = next :: others :=
          List.exists_cons_of_ne_nil (by simp)
        rw [List.cons_append, whole] at read ⊢
        rw [parse?_of_plain plain, read]
        exact filled_gap fewer

end Parse

/-- The characters of an address: digits, colons and dots. -/
def IsLetter (c : Char) : Prop :=
  (Hex.digit? c).isSome ∨ c = ':' ∨ c = '.'

/-- Groups in a row are made of these characters. -/
theorem Groups.isLetter {dots : Bool} {text : List Char} {values : List Nat}
    (listed : Groups dots text values) : ∀ c ∈ text, IsLetter c := by
  induction listed with
  -- Every character is a digit, a colon or a dot.
  | last group => exact fun c member => .inl (group.2.2 c member)
  | octets small =>
    have digit {n : Nat} {c : Char} (member : c ∈ Nat.toDigits 10 n) : IsLetter c :=
      .inl (isSome_digit?_of_isDigit (Decimal.isDigit_of_mem member))
    simp only [List.mem_append, List.mem_cons]
    rintro c (member | rfl | member | rfl | member | rfl | member)
    exacts [digit member, .inr (.inr rfl), digit member, .inr (.inr rfl), digit member,
      .inr (.inr rfl), digit member]
  | more group others ih =>
    simp only [List.mem_append, List.mem_cons]
    rintro c (member | rfl | member)
    exacts [.inl (group.2.2 c member), .inr (.inl rfl), ih c member]

/-- An address is made of these characters. -/
theorem Literal.isLetter {text : List Char} {groups : List Nat} (literal : Literal text groups) :
    ∀ c ∈ text, IsLetter c := by
  have side {dots : Bool} {text : List Char} {values : List Nat} (side : Side dots text values) :
      ∀ c ∈ text, IsLetter c := by
    obtain ⟨rfl, -⟩ | listed := side
    · simp
    · exact listed.isLetter
  cases literal with
  | full listed => exact listed.isLetter
  | gap before behind =>
    simp only [List.mem_append, List.mem_cons]
    rintro c (member | rfl | rfl | member)
    exacts [side before c member, .inr (.inl rfl), .inr (.inl rfl), side behind c member]

/-- An address has eight groups. -/
theorem Literal.length_eq {text : List Char} {groups : List Nat} (literal : Literal text groups) :
    groups.length = 8 := by
  -- Eight were written, or the double colon stands for those that are missing.
  cases literal with
  | full listed eight => exact eight
  | gap before behind fewer =>
    simp only [List.length_append, List.length_replicate]
    omega

/-- Groups with colons between them are some text. -/
theorem colonSeparated_ne_empty {groups : List Nat} (given : groups ≠ []) :
    colonSeparated groups ≠ "" := by
  obtain ⟨group, rest, rfl⟩ := List.exists_cons_of_ne_nil given
  have digits : String.ofList (Hex.number group) ≠ "" := by
    simp [Hex.number, Nat.toDigits_ne_nil]
  cases rest with
  | nil => simpa [colonSeparated] using digits
  | cons next others => simp [colonSeparated, String.intercalate_cons_cons, digits]

/-- The text of an address is not empty. -/
theorem text_ne_empty {groups : List Nat} (given : groups ≠ []) : text groups ≠ "" := by
  unfold text
  split
  · simp
  · dsimp only
    -- Without two zeros in a row the groups are all that is written.
    split
    · simp
    · exact colonSeparated_ne_empty given

end Ipv6

end RedisCluster
