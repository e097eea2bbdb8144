import RedisCluster.Proofs.Endpoint.Ipv6

/-! What the reader of URLs makes of the text behind the two slashes: user info, host, port, and
what follows them. -/

namespace RedisCluster.Uri

variable {text rest host after digits tail : List Char} {user : Option (List Char)}
  {kind : SchemeKind} {c : Char} {bracketed : Bool}

/-- A path, a query or a fragment begins with a character that a host cannot hold. -/
theorem endsAuthority_iff : endsAuthority .other c = true ↔ c = '/' ∨ c = '?' ∨ c = '#' := by
  simp [endsAuthority, or_assoc]

section UserInfo

/-- Before the end of the authority nothing ends it. -/
theorem takeWhile_authority (inside : ∀ c ∈ text, endsAuthority kind c = false) :
    (text ++ rest).takeWhile (fun c => !endsAuthority kind c) =
      text ++ rest.takeWhile fun c => !endsAuthority kind c :=
  List.takeWhile_append_of_pos fun c member => by simp [inside c member]

/-- A text is its authority and what begins with the end of that. -/
theorem exists_authority (kind : SchemeKind) (text : List Char) :
    ∃ inner tail, text = inner ++ tail ∧ (∀ c ∈ inner, endsAuthority kind c = false) ∧
      tail.takeWhile (fun c => !endsAuthority kind c) = [] := by
  -- The longest stretch with no such character is the authority; the rest cannot add to it.
  refine ⟨_, _, (List.takeWhile_append_dropWhile (p := fun c => !endsAuthority kind c)).symm,
    fun c member => ?_, ?_⟩
  · simpa using List.mem_takeWhile_imp (p := fun c => !endsAuthority kind c) member
  -- What stops the stretch is its first character after, if there is one.
  · have stops := List.head?_dropWhile_not (fun c => !endsAuthority kind c) text
    cases ended : text.dropWhile (fun c => !endsAuthority kind c) with
    | nil => rfl
    | cons c rest =>
      rw [ended] at stops
      rw [List.takeWhile_cons_of_neg (by simpa using stops)]

/-- Seen from its end, a text is split at its last at-sign. -/
theorem reverse_at (front : List Char) {back : List Char} (last : '@' ∉ back) :
    ((front ++ '@' :: back).reverse.takeWhile (· ≠ '@')).reverse = back ∧
      (((front ++ '@' :: back).reverse.dropWhile (· ≠ '@')).drop 1).reverse = front := by
  -- Read backwards, the part behind the last at-sign is met first and holds none.
  have apart : ∀ c ∈ back.reverse, decide (c ≠ '@') = true := by
    intro c member
    exact decide_eq_true fun same => last (same ▸ List.mem_reverse.1 member)
  have reversed : (front ++ '@' :: back).reverse = back.reverse ++ '@' :: front.reverse := by simp
  rw [reversed, List.takeWhile_append_of_pos apart, List.dropWhile_append_of_pos apart]
  simp

/-- Without an at-sign in the authority there is no user info. -/
theorem splitUserInfo_of_none (unmarked : '@' ∉ text.takeWhile fun c => !endsAuthority kind c) :
    splitUserInfo kind text = (none, text) := by
  simp only [splitUserInfo, List.contains_eq_mem, unmarked, decide_false, Bool.false_eq_true,
    if_false]

/-- User info is what stands before the last at-sign of the authority. -/
theorem splitUserInfo_of_some {info : List Char}
    (inside : ∀ c ∈ info, endsAuthority .other c = false)
    (last : '@' ∉ rest.takeWhile fun c => !endsAuthority .other c) :
    splitUserInfo .other (info ++ '@' :: rest) = (some info, rest) := by
  -- The info holds nothing that ends the authority, so the authority reaches past its at-sign.
  have whole : (info ++ '@' :: rest).takeWhile (fun c => !endsAuthority .other c) =
      info ++ '@' :: rest.takeWhile fun c => !endsAuthority .other c := by
    rw [takeWhile_authority inside]
    rfl
  -- As many characters as the authority has are given back behind the at-sign.
  have behind : (info ++ '@' :: rest).drop
      (info ++ '@' :: rest.takeWhile fun c => !endsAuthority .other c).length =
      rest.drop (rest.takeWhile fun c => !endsAuthority .other c).length := by
    rw [List.length_append, List.drop_length_add_append]
    rfl
  -- The authority of the rest is a prefix of it, and what is dropped comes after that prefix.
  have front : rest.takeWhile (fun c => !endsAuthority .other c) <+: rest :=
    List.takeWhile_prefix _
  have same := List.prefix_iff_eq_append.1 front
  obtain ⟨after, before⟩ := reverse_at info last
  simp only [splitUserInfo, whole, behind, after, before, same]
  simp

/-- A text is split into the user info of its authority and the rest. -/
theorem splitUserInfo_eq_iff : splitUserInfo .other text = (user, rest) ↔
    text = Spelling.userText user ++ rest ∧
      (∀ info ∈ user, ∀ c ∈ info, endsAuthority .other c = false) ∧
      '@' ∉ rest.takeWhile fun c => !endsAuthority .other c := by
  constructor
  · intro split
    -- Both ways of the reader look at the authority only, so it is cut out first.
    obtain ⟨inner, tail, rfl, inside, ended⟩ := exists_authority .other text
    have whole : (inner ++ tail).takeWhile (fun c => !endsAuthority .other c) = inner := by
      rw [takeWhile_authority inside, ended, List.append_nil]
    by_cases marked : '@' ∈ inner
    · -- The last at-sign is the first one from the end.
      obtain ⟨back, front, reversed, last⟩ :=
        List.eq_append_cons_of_mem (List.mem_reverse.2 marked)
      rw [← List.mem_reverse] at last
      obtain rfl : inner = front.reverse ++ '@' :: back.reverse := by
        rw [← List.reverse_inj, reversed]
        simp
      -- No character in front of the at-sign ends the authority, for all of them are inside of it.
      have before : ∀ c ∈ front.reverse, endsAuthority .other c = false :=
        fun c member => inside c (by simp_all)
      -- Behind the at-sign the authority goes on to the same end as before.
      have behind : (back.reverse ++ tail).takeWhile (fun c => !endsAuthority .other c) =
          back.reverse := by
        rw [takeWhile_authority fun c member => inside c (by simp_all), ended, List.append_nil]
      rw [List.append_assoc, List.cons_append,
        splitUserInfo_of_some before (by rwa [behind])] at split
      cases split
      exact ⟨by simp [Spelling.userText], by simpa using before, by rwa [behind]⟩
    -- With no at-sign in the authority the reader leaves the text as it is.
    · rw [splitUserInfo_of_none (by rwa [whole])] at split
      cases split
      exact ⟨rfl, by simp, by rwa [whole]⟩
  -- The other way round, the two cases of the reader are the two kinds of user info.
  · rintro ⟨rfl, inside, last⟩
    cases user with
    | none => exact splitUserInfo_of_none last
    | some info =>
      rw [Spelling.userText, List.append_assoc]
      exact splitUserInfo_of_some (inside info rfl) last

end UserInfo

section Host

/-- The text behind a host is nothing, or it begins with what ends a host. -/
def Ends (after : List Char) : Prop :=
  ∀ c ∈ after.head?, c = ':' ∨ endsAuthority .other c = true

/-- What the search for the end of a host finds is a split of the text. -/
theorem append_of_splitHost (split : splitHost kind bracketed text = (host, after)) :
    text = host ++ after ∧ ∀ c ∈ after.head?, c = ':' ∨ endsAuthority kind c = true := by
  -- A bracket changes how the rest is read, so the statement is about both ways.
  induction text generalizing bracketed host with
  | nil =>
    cases split
    simp
  | cons c rest ih =>
    unfold splitHost at split
    split at split
    -- The first character ends the host, and it says itself why.
    · rename_i stops
      cases split
      refine ⟨rfl, fun d first => ?_⟩
      obtain rfl := Option.some.inj first
      simp only [Bool.or_eq_true, Bool.and_eq_true, beq_iff_eq] at stops
      exact stops.imp_left And.left
    -- Any other character belongs to the host, and the search goes on behind it.
    · dsimp only at split
      generalize found : splitHost kind _ rest = parts at split
      obtain ⟨front, back⟩ := parts
      cases split
      obtain ⟨rfl, ended⟩ := ih found
      exact ⟨rfl, ended⟩

/-- A host ends with the text, at a colon, or where the authority ends. -/
theorem splitHost_of_ends (ended : Ends after) : splitHost .other false after = ([], after) := by
  -- Either there is nothing to search, or the first character stops the search at once.
  cases after with
  | nil => rfl
  | cons c rest =>
    have stops := ended c rfl
    rw [splitHost, if_pos (by simpa using stops)]

/-- Characters that are no brackets belong to the host; so do colons, inside of brackets. -/
theorem splitHost_append (inside : ∀ c ∈ host, endsAuthority kind c = false ∧ c ≠ '[' ∧ c ≠ ']')
    (colons : bracketed = true ∨ ':' ∉ host) :
    splitHost kind bracketed (host ++ after) =
      (host ++ (splitHost kind bracketed after).1, (splitHost kind bracketed after).2) := by
  -- One character after the other is passed over; the brackets seen so far do not change.
  induction host with
  | nil => rfl
  | cons c rest ih =>
    obtain ⟨goes_on, no_opening, no_closing⟩ := inside c List.mem_cons_self
    -- A colon ends the host only outside of brackets, and there the host has none.
    have no_colon : ((c == ':') && !bracketed) = false := by
      obtain rfl | absent := colons
      · simp
      · have other : c ≠ ':' := fun same => absent (same ▸ List.mem_cons_self)
        simp [other]
    rw [List.cons_append, splitHost]
    simp only [no_colon, goes_on, Bool.or_self, Bool.false_eq_true, if_false, beq_iff_eq,
      no_opening, no_closing]
    rw [ih (fun d member => inside d (List.mem_cons_of_mem c member))
      (colons.imp_right fun absent member => absent (List.mem_cons_of_mem c member))]
    rfl

/-- The character that is written for one of a host is not nothing. -/
theorem encodeHostChar_ne_nil (c : Char) : encodeHostChar c ≠ [] := by
  -- Escaped or not, a character is written as at least one byte.
  unfold encodeHostChar
  split
  · simp
  · cases encoded : String.utf8EncodeChar c with
    | nil => simp at encoded
    | cons byte bytes => simp

/-- Between brackets an address of the sixth version is read, and nothing else. -/
theorem bracketedHost_eq_ok_iff {host : String} : bracketedHost text = .ok host ↔
    ∃ inner groups, text = inner ++ [']'] ∧ Ipv6.Literal inner groups ∧
      host = Ipv6.text groups := by
  constructor
  · intro read
    -- Whatever does not end in a closing bracket, or is no address inside, is refused.
    unfold bracketedHost at read
    split at read
    · rename_i reversed closed
      split at read
      · rename_i groups parsed
        cases read
        refine ⟨reversed.reverse, groups, ?_, Ipv6.parse?_eq_some_iff.1 parsed, rfl⟩
        rw [← List.reverse_inj, closed]
        simp
      · cases read
    · cases read
  -- The last character is the bracket, and all in front of it is an address.
  · rintro ⟨inner, groups, rfl, read, rfl⟩
    have closed : (inner ++ [']']).reverse = ']' :: inner.reverse := by simp
    simp only [bracketedHost, closed, List.reverse_reverse, Ipv6.parse?_eq_some_iff.2 read]

/-- The hosts that are read are those that are spelled right; only of no text there is no host. -/
theorem opaqueHost_eq_ok_iff {host : String} :
    opaqueHost text = .ok host ∧ host ≠ "" ↔ HostSpelling text host := by
  constructor
  · rintro ⟨read, given⟩
    -- A bracket in front decides which of the two spellings is read.
    unfold opaqueHost at read
    split at read
    · obtain ⟨inner, groups, rfl, literal, rfl⟩ := bracketedHost_eq_ok_iff.1 read
      exact .literal literal
    · split at read
      -- Outside of brackets one forbidden character is enough to refuse the host.
      · cases read
      · rename_i allowed
        cases read
        -- No text would be read as no host, which was excluded.
        refine .name ?_ (by simpa using allowed)
        rintro rfl
        exact given rfl
  · rintro (⟨given, allowed⟩ | literal)
    -- A name cannot begin with a bracket, since brackets are forbidden in it.
    · obtain ⟨c, rest, rfl⟩ := List.exists_cons_of_ne_nil given
      have opening : c ≠ '[' := by
        rintro rfl
        exact absurd (allowed '[' List.mem_cons_self) (by decide)
      refine ⟨?_, by simp [encodeHostChar_ne_nil]⟩
      unfold opaqueHost
      split
      · exact absurd (List.cons.inj ‹_›).1 opening
      · rw [if_neg (by simpa using allowed)]
    -- An address has eight groups, so its text is not empty either.
    · have some_groups : _ ≠ [] := List.length_pos_iff.1 (by rw [literal.length_eq]; decide)
      exact ⟨bracketedHost_eq_ok_iff.2 ⟨_, _, rfl, literal, rfl⟩, Ipv6.text_ne_empty some_groups⟩

end Host

end RedisCluster.Uri

namespace RedisCluster

open Uri

/-- No character of an address of the sixth version means anything else to the reader. -/
theorem Ipv6.IsLetter.plain {c : Char} (letter : Ipv6.IsLetter c) :
    endsAuthority .other c = false ∧ c ≠ '[' ∧ c ≠ ']' ∧ c ≠ '@' := by
  obtain digit | rfl | rfl := letter
  -- A digit differs from every character that is none.
  · have other (d : Char) (no_digit : (Hex.digit? d).isSome = false) : c ≠ d := by
      rintro rfl
      rw [digit] at no_digit
      cases no_digit
    refine ⟨?_, other '[' rfl, other ']' rfl, other '@' rfl⟩
    rw [← Bool.not_eq_true, endsAuthority_iff]
    simp [other '/' rfl, other '?' rfl, other '#' rfl]
  · decide
  · decide

namespace HostSpelling

variable {text after : List Char} {host : String}

/-- No character of a host ends the authority, or the user info. -/
theorem plain (spelled : HostSpelling text host) :
    ∀ c ∈ text, endsAuthority .other c = false ∧ c ≠ '@' := by
  cases spelled with
  | name given allowed =>
    -- What ends an authority and the at-sign are all among the forbidden characters.
    intro c member
    have fine := allowed c member
    simp [isForbidden] at fine
    simp [endsAuthority, fine]
  | literal read =>
    -- Around the letters of an address stand the two brackets, which end nothing.
    simp only [List.mem_cons, List.mem_append, List.not_mem_nil, or_false]
    rintro c (rfl | member | rfl)
    · decide
    · obtain ⟨goes_on, -, -, unmarked⟩ := (read.isLetter c member).plain
      exact ⟨goes_on, unmarked⟩
    · decide

/-- A host is not empty. -/
theorem ne_nil (spelled : HostSpelling text host) : text ≠ [] := by
  cases spelled with
  | name given => exact given
  | literal => simp

/-- A host that is spelled right is found before what may stand behind it. -/
theorem splitHost_eq (spelled : HostSpelling text host) (ended : Ends after) :
    splitHost .other false (text ++ after) = (text, after) := by
  have plain := spelled.plain
  cases spelled with
  | name given allowed =>
    -- A name holds neither brackets nor colons, so nothing stops the search inside of it.
    have apart (d : Char) (forbidden : isForbidden d = true) : ∀ c ∈ text, c ≠ d := by
      rintro c member rfl
      rw [allowed c member] at forbidden
      cases forbidden
    rw [splitHost_append (fun c member => ⟨(plain c member).1, apart '[' rfl c member,
      apart ']' rfl c member⟩) (.inr fun member => apart ':' rfl ':' member rfl),
      splitHost_of_ends ended, List.append_nil]
  | @literal inner groups read =>
    -- Inside of the brackets stand letters of an address only; colons are among them.
    have inside : ∀ c ∈ inner, endsAuthority .other c = false ∧ c ≠ '[' ∧ c ≠ ']' := by
      intro c member
      obtain ⟨goes_on, no_opening, no_closing, -⟩ := (read.isLetter c member).plain
      exact ⟨goes_on, no_opening, no_closing⟩
    -- Between the brackets colons are allowed; behind the closing one the host ends.
    have closing : splitHost .other true (']' :: after) = ([']'], after) := by
      simp [splitHost, splitHost_of_ends ended, endsAuthority]
    have found : splitHost .other true (inner ++ ']' :: after) = (inner ++ [']'], after) := by
      rw [splitHost_append inside (.inl rfl), closing]
    simp [splitHost, endsAuthority, found]

end HostSpelling

namespace Uri

variable {text digits tail : List Char} {port : Option UInt16}

/-- The text behind a port is nothing, or it begins with a slash of either kind or what begins a
query or a fragment. -/
def EndsPort (tail : List Char) : Prop :=
  ∀ c ∈ tail.head?, c = '\\' ∨ endsAuthority .other c = true

/-- What some digits mean that are read after a number; without digits there may be no number. -/
inductive PortDigits : Option Nat → List Char → Option UInt16 → Prop where
  | none {value : Option Nat} : PortDigits value [] (value.map UInt16.ofNat)
  | some {value : Option Nat} {digits : List Char} {n : Nat} (given : digits ≠ [])
      (read : Decimal.digitsFrom? (value.getD 0) digits = some n) (small : n < 65536) :
      PortDigits value digits (some (UInt16.ofNat n))

/-- What begins behind a port is no digit. -/
theorem EndsPort.no_digit {c : Char} {rest : List Char} (ended : EndsPort (c :: rest)) :
    Decimal.digit? c = none ∧ (c == '/' || c == '\\' || c == '?' || c == '#') = true := by
  obtain rfl | ends := ended c rfl
  -- A slash, a question mark or a number sign is no digit, as is a backslash.
  · decide
  · obtain rfl | rfl | rfl := endsAuthority_iff.1 ends <;> decide

/-- A digit that is read makes a number of which the other digits are read. -/
theorem portFrom_digit {value : Option Nat} {c : Char} {d : Nat} {rest : List Char}
    (digit : Decimal.digit? c = some d) :
    portFrom value (c :: rest) =
      if value.getD 0 * 10 + d < 65536 then portFrom (some (value.getD 0 * 10 + d)) rest
      else .error .invalidPort := by
  rw [portFrom, digit]

/-- The digits of a number that is small enough are read to their end. -/
theorem portFrom_of_digits {value : Option Nat} (meaning : PortDigits value digits port)
    (ended : EndsPort tail) : portFrom value (digits ++ tail) = .ok port := by
  -- The number read so far is the state of the reader, so it varies along the digits.
  induction digits generalizing value with
  | nil =>
    cases meaning with
    | some given => exact absurd rfl given
    | none =>
      -- Without further digits the reader is at the end of the port and gives what it has.
      cases tail with
      | nil => rfl
      | cons c rest =>
        obtain ⟨no_digit, ends⟩ := ended.no_digit
        rw [List.nil_append, portFrom, no_digit]
        exact if_pos ends
  | cons c digits ih =>
    cases meaning with
    | some given read small =>
      obtain ⟨d, digit, others⟩ := Decimal.digitsFrom?_cons.1 read
      have grown := Decimal.le_of_digitsFrom? others
      -- No number on the way is larger than the last one.
      rw [List.cons_append, portFrom_digit digit, if_pos (by omega)]
      apply ih
      cases digits with
      -- The number reached so far is one to read on from, whether digits follow or not.
      | nil =>
        obtain rfl := Option.some.inj others
        exact .none
      | cons c digits => exact .some (by simp) others small

/-- What is read as a port are digits, up to where the port ends. -/
theorem digits_of_portFrom {value : Option Nat} (read : portFrom value text = .ok port) :
    ∃ digits tail, text = digits ++ tail ∧ EndsPort tail ∧ PortDigits value digits port := by
  -- The value read so far is carried along, so the statement is about any value to start from.
  induction text generalizing value with
  | nil =>
    cases read
    exact ⟨[], [], rfl, by simp [EndsPort], .none⟩
  | cons c rest ih =>
    cases digit : Decimal.digit? c with
    | some d =>
      rw [portFrom_digit digit] at read
      split at read
      · rename_i small
        -- The number with this digit is small enough, and the rest is read from it.
        obtain ⟨digits, tail, rfl, ended, meaning⟩ := ih read
        refine ⟨c :: digits, tail, rfl, ended, ?_⟩
        cases meaning with
        | none => exact .some (by simp) (Decimal.digitsFrom?_cons.2 ⟨d, digit, rfl⟩) small
        | some given others small =>
          exact .some (by simp) (Decimal.digitsFrom?_cons.2 ⟨d, digit, others⟩) small
      -- A number that is too large is refused, whatever follows.
      · cases read
    | none =>
      rw [portFrom, digit] at read
      dsimp only at read
      -- What is no digit has to be one of the characters that end a port.
      split at read
      · rename_i ends
        cases read
        refine ⟨[], c :: rest, rfl, fun e first => ?_, .none⟩
        obtain rfl := Option.some.inj first
        rw [endsAuthority_iff]
        simp only [Bool.or_eq_true, beq_iff_eq] at ends
        tauto
      · cases read

/-- The port that some digits spell is read from them. -/
theorem portSpelling_some_iff {n : UInt16} : PortSpelling (some digits) n ↔
    ∃ port, PortDigits none digits port ∧ port.getD defaultPort = n := by
  constructor
  -- An absent and an empty port are the default; all others are the number that is spelled.
  · rintro (_ | _ | ⟨read, small⟩)
    · exact ⟨none, .none, rfl⟩
    -- Something without digits would be no number.
    · have given : digits ≠ [] := by
        rintro rfl
        cases read
      rw [Decimal.digits?_eq given] at read
      exact ⟨_, .some given read small, rfl⟩
  · rintro ⟨port, meaning, rfl⟩
    cases meaning with
    | none => exact .empty
    | some given read small => exact .number (by rwa [Decimal.digits?_eq given]) small

/-- The text behind a host is a port and what ends it, or it has no port. -/
theorem portAfter_iff {after : List Char} {n : UInt16} :
    (Ends after ∧ ∃ port, portAfter after = .ok port ∧ port.getD defaultPort = n) ↔
      ∃ written tail, after = portText written ++ tail ∧ PortSpelling written n ∧
        ∀ c ∈ tail.head?, endsAuthority .other c = true ∨ c = '\\' ∧ written ≠ none := by
  constructor
  · rintro ⟨ended, port, read, rfl⟩
    unfold portAfter at read
    -- A colon in front makes it a port; then the digits are read to where the port ends.
    split at read
    · obtain ⟨digits, tail, rfl, ended, meaning⟩ := digits_of_portFrom read
      have spelled := portSpelling_some_iff.2 ⟨port, meaning, rfl⟩
      refine ⟨some digits, tail, rfl, spelled, fun c first => ?_⟩
      exact (ended c first).symm.imp_right fun slash => ⟨slash, by simp⟩
    -- Without a colon there is no port, and what ended the host ends the authority.
    · rename_i no_colon
      cases read
      refine ⟨none, after, rfl, .absent, fun c first => .inl ((ended c first).resolve_left ?_)⟩
      rintro rfl
      obtain ⟨rest, rfl⟩ := List.head?_eq_some_iff.1 first
      exact no_colon rest rfl
  -- What is written decides again, and it begins with a colon just if a port is written.
  · rintro ⟨written, tail, rfl, spelled, ended⟩
    cases written with
    -- A backslash may stand behind a port only, so here the authority has ended.
    | none =>
      cases spelled
      have only : ∀ c ∈ tail.head?, endsAuthority .other c = true := fun c first =>
        (ended c first).resolve_right fun slash => slash.2 rfl
      refine ⟨fun c first => .inr (only c first), none, ?_, rfl⟩
      unfold portAfter
      split
      · rename_i digits colon
        obtain rfl : tail = ':' :: digits := colon
        exact absurd (only ':' rfl) (by decide)
      · rfl
    -- The colon ends the host, and the digits behind it are read to their end.
    | some digits =>
      obtain ⟨port, meaning, rfl⟩ := portSpelling_some_iff.1 spelled
      refine ⟨fun c first => .inl (Option.some.inj first).symm, port, ?_, rfl⟩
      exact portFrom_of_digits meaning fun c first => (ended c first).symm.imp_left And.left

/-- What may stand behind a host and a port is told by its first character, unless the first is a
backslash. -/
theorem tail_iff {written : Option (List Char)} : Spelling.Tail written tail ↔
    (∀ c ∈ tail.head?, endsAuthority .other c = true ∨ c = '\\' ∧ written ≠ none) ∧
      '@' ∉ tail.takeWhile fun c => !endsAuthority .other c := by
  constructor
  -- Each way to go on is told apart by its first character.
  · rintro (_ | begins | ⟨behind, unmarked⟩)
    · simp
    · simp [begins]
    · refine ⟨fun c first => .inr ⟨(Option.some.inj first).symm, behind⟩, ?_⟩
      -- A backslash does not end the authority, so the rest of it is looked through for at-signs.
      rw [List.takeWhile_cons_of_pos (by decide)]
      simpa using unmarked
  -- The first character tells which way it is, and the three ways exclude each other.
  · rintro ⟨begins, unmarked⟩
    cases tail with
    | nil => exact .none
    | cons c rest =>
      obtain begins | ⟨rfl, behind⟩ := begins c rfl
      · exact .part begins
      · rw [List.takeWhile_cons_of_pos (by decide)] at unmarked
        exact .backslash behind fun member => unmarked (List.mem_cons_of_mem _ member)

/-- An authority names a host if what is in front of it is user info and what is behind it is a
port. -/
theorem authority_eq_ok_iff {scheme name host : String} :
    authority scheme .other text = .ok ⟨name, some host, port⟩ ↔ name = scheme ∧
      ∃ user written after, splitUserInfo .other text = (user, written ++ after) ∧
        splitHost .other false (written ++ after) = (written, after) ∧
        HostSpelling written host ∧ portAfter after = .ok port := by
  constructor
  · intro read
    -- Every step of the reader can fail; the one way through all of them is followed.
    unfold authority at read
    generalize informed : splitUserInfo .other text = parts at read
    obtain ⟨user, rest⟩ := parts
    dsimp only at read
    -- Directly behind user info an authority must not end.
    split at read
    · cases read
    · generalize split : splitHost .other false rest = parts at read
      obtain ⟨written, after⟩ := parts
      obtain ⟨rfl, -⟩ := append_of_splitHost split
      simp only [reduceCtorEq, false_and, if_false] at read
      -- A host that cannot be read is an error, and so is a port.
      cases hosted : opaqueHost written with
      | error error => simp [hosted] at read
      | ok found =>
        cases behind : portAfter after with
        | error error =>
          simp only [hosted, behind] at read
          split at read <;> cases read
        | ok number =>
          simp only [hosted, behind] at read
          -- The last two checks refuse a port without a host and a host of no characters.
          split at read
          · cases read
          · split at read
            · cases read
            · simp only [Except.ok.injEq, Uri.mk.injEq, Option.ite_none_left_eq_some,
                Option.some.injEq] at read
              obtain ⟨rfl, ⟨given, rfl⟩, rfl⟩ := read
              exact ⟨rfl, user, written, after, rfl, split, opaqueHost_eq_ok_iff.1 ⟨hosted, given⟩,
                behind⟩
  -- The other way round, each step of the reader is known and succeeds.
  · rintro ⟨rfl, user, written, after, informed, split, spelled, behind⟩
    obtain ⟨read, given⟩ := opaqueHost_eq_ok_iff.2 spelled
    -- What follows the user info is the host.
    have follows : ((written ++ after).head?.map (endsAuthority .other)).getD false = false := by
      obtain ⟨c, rest, rfl⟩ := List.exists_cons_of_ne_nil spelled.ne_nil
      exact (spelled.plain c List.mem_cons_self).1
    unfold authority
    rw [informed]
    dsimp only
    rw [follows, if_neg (by simp), split]
    simp [read, given, behind]

/-- A digit ends neither the authority nor the user info, and it is no control. -/
theorem plain_digit {c : Char} {d : Nat} (digit : Decimal.digit? c = some d) :
    endsAuthority .other c = false ∧ c ≠ '@' ∧ 0x20 < c.toNat := by
  -- A digit differs from every character that is none, those that end something included.
  have other (e : Char) (no_digit : Decimal.digit? e = none) : c ≠ e := by
    rintro rfl
    rw [digit] at no_digit
    cases no_digit
  refine ⟨?_, other '@' rfl, ?_⟩
  · rw [← Bool.not_eq_true, endsAuthority_iff]
    simp [other '/' rfl, other '?' rfl, other '#' rfl]
  -- The digits stand above the controls and the blank.
  · rw [(Decimal.digit?_eq_some_iff.1 digit).2]
    exact Nat.lt_add_right d (by decide)

/-- All that is read as a number are digits. -/
theorem plain_digits {value n : Nat} (read : Decimal.digitsFrom? value digits = some n) :
    ∀ c ∈ digits, endsAuthority .other c = false ∧ c ≠ '@' ∧ 0x20 < c.toNat := by
  -- Each character that is read is a digit, and the number read so far does not matter.
  induction digits generalizing value with
  | nil => simp
  | cons c rest ih =>
    obtain ⟨d, digit, others⟩ := Decimal.digitsFrom?_cons.1 read
    exact List.forall_mem_cons.2 ⟨plain_digit digit, ih others⟩

/-- No character of a port ends the authority, or the user info. -/
theorem plain_portText {written : Option (List Char)} {n : UInt16}
    (spelled : PortSpelling written n) :
    ∀ c ∈ portText written, endsAuthority .other c = false ∧ c ≠ '@' ∧ 0x20 < c.toNat := by
  -- A colon and the digits behind it are all that a port is written with.
  cases written with
  | none => simp [portText]
  | some digits =>
    obtain ⟨port, meaning, -⟩ := portSpelling_some_iff.1 spelled
    refine List.forall_mem_cons.2 ⟨by decide, ?_⟩
    cases meaning with
    | none => simp
    | some given read small => exact plain_digits read

/-- What is read behind the two slashes are the parts of a URL that name the endpoint. -/
theorem authority_iff {written : List Char} (lower : written.map Char.toLower = "redis".toList)
    {endpoint : Endpoint} :
    (∃ port, authority "redis" .other text = .ok ⟨"redis", some endpoint.host, port⟩ ∧
      port.getD defaultPort = endpoint.port) ↔
      ∃ spelling : Spelling, spelling.scheme = written ∧ spelling.rest = text ∧
        spelling.Names endpoint := by
  constructor
  -- What the reader took is put together to a spelling, part by part.
  · rintro ⟨port, read, meant⟩
    obtain ⟨-, user, host, after, informed, split, spelled, behind⟩ := authority_eq_ok_iff.1 read
    obtain ⟨rfl, outside, unmarked⟩ := splitUserInfo_eq_iff.1 informed
    obtain ⟨number, tail, rfl, numbered, begins⟩ :=
      portAfter_iff.1 ⟨(append_of_splitHost split).2, port, behind, meant⟩
    -- Neither the host nor the port ends the authority, so an at-sign could only be in the tail.
    rw [takeWhile_authority fun c member => (spelled.plain c member).1,
      takeWhile_authority fun c member => (plain_portText numbered c member).1] at unmarked
    refine ⟨⟨written, user, host, number, tail⟩, rfl, rfl, lower, outside, spelled, numbered,
      tail_iff.2 ⟨begins, fun member => unmarked (by simp [member])⟩⟩
  -- A spelling is read part by part, each up to where the next one begins.
  · rintro ⟨⟨_, user, host, number, tail⟩, rfl, rfl, names⟩
    obtain ⟨begins, unmarked⟩ := tail_iff.1 names.tail
    obtain ⟨ended, port, behind, meant⟩ :=
      portAfter_iff.2 ⟨number, tail, rfl, names.port, begins⟩
    refine ⟨port, authority_eq_ok_iff.2 ⟨rfl, user, host, _,
      splitUserInfo_eq_iff.2 ⟨rfl, names.user, ?_⟩, names.host.splitHost_eq ended, names.host, behind⟩,
      meant⟩
    -- To say that the rest holds no at-sign, the authority is followed through host and port.
    rw [takeWhile_authority fun c member => (names.host.plain c member).1,
      takeWhile_authority fun c member => (plain_portText names.port c member).1]
    simp only [List.mem_append, not_or]
    exact ⟨fun member => (names.host.plain _ member).2 rfl,
      fun member => (plain_portText names.port _ member).2.1 rfl, unmarked⟩

end Uri

end RedisCluster
