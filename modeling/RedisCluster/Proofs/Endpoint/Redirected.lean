import RedisCluster.Proofs.Endpoint.Naming
import RedisCluster.Proofs.Endpoint.NodeKey
import RedisCluster.Proofs.Frame.RoundTrip
import RedisCluster.Proofs.Text.Blank
import RedisCluster.ScriptedCluster

/-! A redirect is understood as it was announced: its slot, and the node that its address is written
for. -/

namespace RedisCluster

section Brackets

variable {host : List Char}

/-- A host between its brackets loses them all. -/
theorem stripBrackets_bracketed (inner : ∃ c ∈ host, c ≠ '[') :
    stripBrackets ('[' :: (host ++ [']'])) = stripBrackets host := by
  -- Some character of the host ends the search for opening brackets, before the closing one.
  have stops : ¬ (host.dropWhile (· == '[')).isEmpty := by
    obtain ⟨c, member, other⟩ := inner
    intro empty
    have everywhere := List.dropWhile_eq_nil_iff.1 (List.isEmpty_iff.1 empty) c member
    exact other (by simpa using everywhere)
  have apart : (host ++ [']']).dropWhile (· == '[') = host.dropWhile (· == '[') ++ [']'] := by
    rw [List.dropWhile_append, if_neg stops]
  rw [stripBrackets, List.dropWhile_cons_of_pos (by rfl), apart,
    dropEndWhile_append_singleton (by rfl)]
  rfl

/-- A host that begins and ends with something else has no brackets to lose. -/
theorem stripBrackets_of_bare (opens : host.head? ≠ some '[') (closes : host.getLast? ≠ some ']') :
    stripBrackets host = host := by
  -- A host that is empty begins with nothing.
  have front : host.dropWhile (· == '[') = host := by
    cases host with
    | nil => rfl
    | cons c rest => exact List.dropWhile_cons_of_neg (by simpa using opens)
  rw [stripBrackets, front]
  refine dropEndWhile_of_last fun c last => ?_
  have other : c ≠ ']' := by
    rintro rfl
    exact closes last
  simpa using other

/-- Brackets are lost once. -/
theorem stripBrackets_idem (host : List Char) :
    stripBrackets (stripBrackets host) = stripBrackets host := by
  refine stripBrackets_of_bare (fun opens => ?_) (fun closes => ?_)
  · -- What is left begins where the opening brackets had ended.
    have front : '[' ∈ (host.dropWhile (· == '[')).head? := by
      obtain ⟨back, whole⟩ := dropEndWhile_prefix (· == ']') (host.dropWhile (· == '['))
      rw [← whole, List.head?_append]
      exact Option.mem_def.2 (congrArg (Option.or · back.head?) opens)
    have stops := List.head?_dropWhile_not (· == '[') host
    rw [Option.mem_def.1 front] at stops
    simp at stops
  -- The last character that is left is no closing bracket.
  · have stays := last_of_dropEndWhile ']' closes
    simp at stays

/-- A host and the host without its brackets are spellings of one another. -/
theorem canonicalHost_stripBrackets (host : String) :
    canonicalHost (String.ofList (stripBrackets host.toList)) = canonicalHost host := by
  simp only [canonicalHost, String.toList_ofList, stripBrackets_idem]

/-- A shown host is the host up to its brackets. -/
theorem stripBrackets_shownHost (host : String) :
    stripBrackets (shownHost host) = stripBrackets host.toList := by
  unfold shownHost
  split
  · rename_i colon
    exact stripBrackets_bracketed ⟨':', colon, by decide⟩
  -- Without a colon it is shown as it is.
  · rfl

end Brackets

/-- The characters of a number are no blanks. -/
theorem solid_digits (n : Nat) : ∀ c ∈ Nat.toDigits 10 n, isBlank c = false := by
  intro c member
  obtain ⟨least, most⟩ := Decimal.bounds_of_isDigit (Decimal.isDigit_of_mem member)
  have low : 48 ≤ c.toNat := least
  -- The digits stand in a row.
  have high : c.toNat ≤ 57 := most
  simp [isBlank]
  omega

namespace Endpoint

/-- The last colon of a text is the one behind which there is none. -/
theorem splitLastColon_append (host : List Char) {port : List Char} (last : ':' ∉ port) :
    splitLastColon? (host ++ ':' :: port) = some (host, port) := by
  have contained : (host ++ ':' :: port).contains ':' = true := by simp
  -- Read from its end, the text shows the part behind the colon first.
  have reversed : (host ++ ':' :: port).reverse = port.reverse ++ ':' :: host.reverse := by simp
  have plain : ∀ c ∈ port.reverse, decide (c ≠ ':') = true := by
    -- A colon in the port would come behind the last one.
    intro c member
    refine decide_eq_true fun colon => last ?_
    rw [← colon]
    exact List.mem_reverse.1 member
  rw [splitLastColon?, if_pos contained, reversed]
  simp only [List.dropWhile_append_of_pos plain, List.takeWhile_append_of_pos plain]
  simp

/-- The node that a redirect to an endpoint names: its host has lost its brackets, and without a
host it is where the replying node is. -/
def announcedBy (source endpoint : Endpoint) : Endpoint :=
  ⟨if stripBrackets endpoint.host.toList = [] then source.host
    else String.ofList (stripBrackets endpoint.host.toList), endpoint.port⟩

/-- An address that ends in a colon and a port names what stands before this colon. -/
theorem ofRedirect_of_written {address : String} {host : List Char} {port : UInt16}
    (source : Endpoint) (written : address.toList = host ++ ':' :: Nat.toDigits 10 port.toNat) :
    ofRedirect? address source = some (announcedBy source ⟨String.ofList host, port⟩) := by
  -- No digit is a colon, so the last colon is the one in front of the port.
  have cut := splitLastColon_append host (colon_notMem_toDigits port.toNat)
  have numbered : Decimal.uint16? (Nat.toDigits 10 port.toNat) = some port := by
    have read := Decimal.uint16?_toString port.toNat_lt
    simpa using read
  have empty : String.ofList (stripBrackets host) = "" ↔ stripBrackets host = [] := by
    rw [← String.toList_inj, String.toList_ofList]
    rfl
  simp only [ofRedirect?, written, cut, numbered, announcedBy, String.toList_ofList, empty]

/-- The written address of an endpoint names this endpoint. -/
theorem ofRedirect_socketAddress (source endpoint : Endpoint) :
    ofRedirect? endpoint.socketAddress source = some (announcedBy source endpoint) := by
  have written : endpoint.socketAddress.toList =
      shownHost endpoint.host ++ ':' :: Nat.toDigits 10 endpoint.port.toNat :=
    joinHostPort_toList endpoint.host endpoint.port
  rw [ofRedirect_of_written source written]
  -- The brackets around a host with colons are lost again.
  simp only [announcedBy, String.toList_ofList, stripBrackets_shownHost]

/-- The written address of an endpoint has no blank in it, if its host has none. -/
theorem solid_socketAddress {endpoint : Endpoint}
    (solid : ∀ c ∈ endpoint.host.toList, isBlank c = false) :
    ∀ c ∈ endpoint.socketAddress.toList, isBlank c = false := by
  intro c member
  rw [socketAddress, joinHostPort_toList, List.mem_append, List.mem_cons] at member
  rcases member with shown | rfl | digit
  · -- The host may have got brackets.
    unfold shownHost at shown
    split at shown
    · rw [List.mem_cons, List.mem_append, List.mem_singleton] at shown
      rcases shown with rfl | inner | rfl
      · decide
      · exact solid c inner
      · decide
    · exact solid c shown
  -- The colon between them is no blank.
  · decide
  · exact solid_digits _ c digit

variable {source endpoint : Endpoint}

/-- The announced node is the endpoint, if this has a host. -/
theorem sameNode_announcedBy (hosted : stripBrackets endpoint.host.toList ≠ []) :
    (announcedBy source endpoint).sameNode endpoint = true := by
  -- The brackets make no difference to the node.
  simp [announcedBy, sameNode, hosted, canonicalHost_stripBrackets]

/-- A host without brackets at its ends is announced as it is. -/
theorem announcedBy_of_bare (hosted : endpoint.host ≠ "")
    (opens : endpoint.host.toList.head? ≠ some '[')
    (closes : endpoint.host.toList.getLast? ≠ some ']') :
    announcedBy source endpoint = endpoint := by
  have kept := stripBrackets_of_bare opens closes
  -- A host is some text, so its characters are not none.
  have some_host : endpoint.host.toList ≠ [] := by
    rwa [Ne, String.toList_eq_nil_iff]
  rw [announcedBy, kept, if_neg some_host, String.ofList_toList]

/-- An endpoint without a host is announced where the replying node is. -/
theorem announcedBy_of_unhosted (unhosted : stripBrackets endpoint.host.toList = []) :
    announcedBy source endpoint = ⟨source.host, endpoint.port⟩ := by
  rw [announcedBy, if_pos unhosted]

end Endpoint

namespace Redirect

open Endpoint (announcedBy)

variable {source endpoint : Endpoint} {slot : Nat}

/-- What follows its front in a text is found. -/
theorem after_of_append {front text : String} {rest : List Char}
    (begins : text.toList = front.toList ++ rest) : after? front text = some rest := by
  -- The front is a front, and what is dropped has its length.
  have found : front.toList.isPrefixOf (front.toList ++ rest) = true :=
    List.isPrefixOf_iff_prefix.2 (List.prefix_append _ _)
  rw [after?, begins, if_pos found, List.drop_left]

/-- The arguments with which a redirect announces a slot of an endpoint. -/
def announcement (slot : Nat) (endpoint : Endpoint) : List Char :=
  (toString slot).toList ++ ' ' :: endpoint.socketAddress.toList

/-- A slot and an address without blanks are read. -/
theorem target_of_address {address : List Char} (known : slot < slotCount)
    (some_address : address ≠ []) (solid : ∀ c ∈ address, isBlank c = false)
    (named : Endpoint.ofRedirect? (String.ofList address) source = some endpoint) :
    target? ((toString slot).toList ++ ' ' :: address) source = some (slot, endpoint) := by
  have digits : (toString slot).toList = Nat.toDigits 10 slot := by simp
  have some_digits : (toString slot).toList ≠ [] := by
    rw [digits]
    exact Nat.toDigits_ne_nil
  -- The slot and the address are the two words.
  have listed : words ((toString slot).toList ++ ' ' :: address) =
      [(toString slot).toList, address] :=
    words_pair some_digits some_address (digits ▸ solid_digits slot) solid (by decide)
  -- A slot is far below the numbers of 16 bits.
  have small : slot < 65536 := Nat.lt_trans known (by decide)
  have number : (UInt16.ofNat slot).toNat = slot := UInt16.toNat_ofNat_of_lt' small
  simp only [target?, listed, Decimal.uint16?_toString small, number, if_pos known, named,
    Option.map_some]

/-- The announced slot and the announced node are read. -/
theorem target_announcement (known : slot < slotCount)
    (solid : ∀ c ∈ endpoint.host.toList, isBlank c = false) :
    target? (announcement slot endpoint) source = some (slot, announcedBy source endpoint) := by
  have some_address : endpoint.socketAddress.toList ≠ [] := by
    -- The colon is there, whatever the host.
    rw [Endpoint.socketAddress, joinHostPort_toList]
    simp
  refine target_of_address known some_address (Endpoint.solid_socketAddress solid) ?_
  rw [String.ofList_toList, Endpoint.ofRedirect_socketAddress]

/-- A redirect is announced on one line. -/
theorem unbroken_announcement {word message : String} (plain : '\r' ∉ word.toList)
    (solid : ∀ c ∈ endpoint.host.toList, isBlank c = false)
    (reads : message.toList = word.toList ++ announcement slot endpoint) :
    Frame.Unbroken (.error message) := by
  intro found
  -- A line end would bring a carriage return, which is a blank and neither a digit nor a space.
  have member : '\r' ∈ message.toList := found.subset List.mem_cons_self
  rw [reads, announcement, List.mem_append, List.mem_append, List.mem_cons] at member
  rcases member with inWord | inNumber | space | inAddress
  · exact plain inWord
  · have digits : (toString slot).toList = Nat.toDigits 10 slot := by simp
    exact absurd (solid_digits slot _ (digits ▸ inNumber)) (by decide)
  · exact absurd space (by decide)
  · exact absurd (Endpoint.solid_socketAddress solid _ inAddress) (by decide)

/-- A move whose arguments can be read is understood. -/
theorem classify_moved {message : String} {arguments : List Char}
    (reads : message.toList = "MOVED ".toList ++ arguments)
    (named : target? arguments source = some (slot, endpoint)) :
    classify (.ok (.error message)) source = .ok (.moved slot endpoint) := by
  simp only [classify, ofErrorReply, after_of_append reads, named]

/-- A redirect for one request whose arguments can be read is understood. -/
theorem classify_ask {message : String} {arguments : List Char}
    (reads : message.toList = "ASK ".toList ++ arguments)
    (named : target? arguments source = some (slot, endpoint)) :
    classify (.ok (.error message)) source = .ok (.ask slot endpoint) := by
  -- The first letter tells it from a move.
  have other : after? "MOVED " message = none := by
    rw [after?, reads]
    rfl
  simp only [classify, ofErrorReply, other, after_of_append reads, named]

/-- What a node answers to announce a redirect is one line, and it is understood. -/
theorem exists_announcement (known : slot < slotCount)
    (solid : ∀ c ∈ endpoint.host.toList, isBlank c = false) {response : Response}
    {signal : Endpoint → Signal}
    (kind : response = .moved endpoint ∧ signal = .moved slot ∨
      response = .ask endpoint ∧ signal = .ask slot) :
    ∃ message, response.answer source slot = .ok (.error message) ∧
      Frame.Unbroken (.error message) ∧
      classify (.ok (.error message)) source = .ok (signal (announcedBy source endpoint)) := by
  -- The word in front is all that the two kinds differ in.
  have announced (word : String) :
      (word ++ toString slot ++ " " ++ endpoint.socketAddress).toList =
        word.toList ++ announcement slot endpoint := by
    simp [announcement]
  have named : target? (announcement slot endpoint) source =
      some (slot, announcedBy source endpoint) :=
    target_announcement known solid
  rcases kind with ⟨rfl, rfl⟩ | ⟨rfl, rfl⟩
  -- Only the words differ, and neither has a line end.
  · exact ⟨_, rfl, unbroken_announcement (by decide) solid (announced "MOVED "),
      classify_moved (announced "MOVED ") named⟩
  · exact ⟨_, rfl, unbroken_announcement (by decide) solid (announced "ASK "),
      classify_ask (announced "ASK ") named⟩

/-- A redirect on one line that means something means the same once it has come in chunks. -/
theorem understood_in_chunks {message : String} {signal : Signal}
    (unbroken : Frame.Unbroken (.error message))
    (means : classify (.ok (.error message)) source = .ok signal) (limit : Nat)
    {chunks : List Bytes} (cut : chunks.flatten = (Frame.error message).encode) :
    (Decoder.feed ⟨limit, []⟩ chunks).1.map (fun frame => classify (.ok frame) source) =
        [.ok signal] ∧
      (Decoder.feed ⟨limit, []⟩ chunks).2.2 = ⟨limit, []⟩ ∧
      ((Frame.error message).encode.length ≤ limit →
        (Decoder.feed ⟨limit, []⟩ chunks).2.1 = none) := by
  rw [Decoder.feed_of_parse (Frame.parse_encode_error unbroken limit) cut]
  -- The frame is the only one, and it means what it meant.
  refine ⟨by rw [List.map_singleton, means], rfl, fun fits => ?_⟩
  rw [Decoder.overrun?_of_fits (by rw [cut, Nat.zero_add]; exact fits), Option.map_none]

/-- A redirect that a node announces is understood as it was announced, in whatever chunks its bytes
come: for good or for one request, with its slot, and with a target that is the endpoint it was
written for. The target has the very host of the endpoint, unless this begins or ends with a
bracket; without a host it is where the replying node is. The limit of the decoder matters only for
what comes up before the last chunk, and then only if the bytes exceed it. -/
theorem understood_as_announced (source endpoint : Endpoint) {slot : Nat} (known : slot < slotCount)
    (solid : ∀ c ∈ endpoint.host.toList, isBlank c = false) {response : Response}
    {signal : Endpoint → Signal}
    (kind : response = .moved endpoint ∧ signal = .moved slot ∨
      response = .ask endpoint ∧ signal = .ask slot) :
    ∃ reply target, response.answer source slot = .ok reply ∧
      (∀ limit chunks, chunks.flatten = reply.encode →
        (Decoder.feed ⟨limit, []⟩ chunks).1.map (fun frame => classify (.ok frame) source) =
            [.ok (signal target)] ∧
          (Decoder.feed ⟨limit, []⟩ chunks).2.2 = ⟨limit, []⟩ ∧
          (reply.encode.length ≤ limit → (Decoder.feed ⟨limit, []⟩ chunks).2.1 = none)) ∧
      (stripBrackets endpoint.host.toList ≠ [] → target.sameNode endpoint = true) ∧
      (endpoint.host ≠ "" → endpoint.host.toList.head? ≠ some '[' →
        endpoint.host.toList.getLast? ≠ some ']' → target = endpoint) ∧
      (stripBrackets endpoint.host.toList = [] → target = ⟨source.host, endpoint.port⟩) := by
  -- Answered, understood in whatever chunks, and named as the endpoint is.
  obtain ⟨message, answered, unbroken, means⟩ := exists_announcement known solid kind
  exact ⟨_, announcedBy source endpoint, answered,
    fun limit chunks cut => understood_in_chunks unbroken means limit cut,
    Endpoint.sameNode_announcedBy, Endpoint.announcedBy_of_bare, Endpoint.announcedBy_of_unhosted⟩

/-- A redirect for one request to a node with colons in its host. -/
theorem understood_as_announced_colons :
    let endpoint : Endpoint := ⟨"fe80::A", 7000⟩
    ∃ reply, (Response.ask endpoint).answer ⟨"10.0.0.1", 6379⟩ 16383 = .ok reply ∧
      ∀ limit chunks, chunks.flatten = reply.encode →
        (Decoder.feed ⟨limit, []⟩ chunks).1.map
            (fun frame => classify (.ok frame) ⟨"10.0.0.1", 6379⟩) =
          [.ok (.ask 16383 endpoint)] := by
  intro endpoint
  -- The host has digits, letters and colons.
  have solid : ∀ c ∈ endpoint.host.toList, isBlank c = false := by simp [endpoint, isBlank]
  obtain ⟨reply, target, answered, understood, -, same, -⟩ :=
    understood_as_announced ⟨"10.0.0.1", 6379⟩ endpoint (by decide : 16383 < slotCount) solid
      (.inr ⟨rfl, rfl⟩)
  have very : target = endpoint := same (by decide) (by decide) (by decide)
  exact ⟨reply, answered, fun limit chunks cut => very ▸ (understood limit chunks cut).1⟩

end Redirect

end RedisCluster
