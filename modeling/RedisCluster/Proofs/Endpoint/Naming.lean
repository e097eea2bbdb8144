import Mathlib.Data.List.TakeWhile
import RedisCluster.Layout
import RedisCluster.Redirect

/-! What a reply says about addresses, and that no endpoint is read out of a reply which does not name
it. -/

namespace RedisCluster

/-- A reply names an endpoint: it redirects there, with a slot and an address that ends in a colon and a
port, or it is a layout in which the endpoint is a master. A host that is empty, or unknown to the
layout, is that of the node which replied. -/
inductive Frame.Names (source : Endpoint) : Frame → Endpoint → Prop where
  | redirect {message : String} {word arguments slot host port : List Char} {target : Endpoint}
      (kind : word = "MOVED ".toList ∨ word = "ASK ".toList)
      (begins : message.toList = word ++ arguments)
      (listed : words arguments = [slot, host ++ ':' :: port]) (last : ':' ∉ port)
      (numbered : Decimal.uint16? port = some target.port)
      (spelled : target.host =
        if stripBrackets host = [] then source.host else String.ofList (stripBrackets host)) :
      Names source (.error message) target
  | master {entries replicas : List Frame} {first final host port : Frame} {more : List Frame}
      {text : String} {target : Endpoint}
      (listed : .array (first :: final :: .array (host :: port :: more) :: replicas) ∈ entries)
      (read : host.asText = some text) (numbered : Layout.port? port = some target.port)
      (spelled : target.host = if text = "" ∨ text = "?" then source.host else text) :
      Names source (.array entries) target

namespace Endpoint

/-- A text is split at its last colon. -/
theorem eq_of_splitLastColon {text host port : List Char}
    (split : splitLastColon? text = some (host, port)) :
    text = host ++ ':' :: port ∧ ':' ∉ port := by
  unfold splitLastColon? at split
  -- There is a colon, or the text is not split.
  split at split
  · rename_i contained
    simp only [Option.some.injEq, Prod.mk.injEq] at split
    obtain ⟨rfl, rfl⟩ := split
    have parts := List.takeWhile_append_dropWhile (p := (· ≠ ':')) (l := text.reverse)
    -- From the end, what stops the search for a colon is the colon.
    cases stopped : text.reverse.dropWhile (· ≠ ':') with
    | nil =>
      have everywhere := List.dropWhile_eq_nil_iff.1 stopped ':' (by simpa using contained)
      simp at everywhere
    | cons colon front =>
      have found : colon = ':' := by
        have stops := List.head?_dropWhile_not (· ≠ ':') text.reverse
        rw [stopped] at stops
        simpa using stops
      rw [stopped, found] at parts
      refine ⟨?_, fun member => ?_⟩
      · have whole := congrArg List.reverse parts
        -- Read from its front, the text is the other way round.
        simpa using whole.symm
      · have apart := List.mem_takeWhile_imp (List.mem_reverse.1 member)
        simp at apart
  · cases split

end Endpoint

namespace Redirect

/-- Where an answer redirects to, if it is a redirect. -/
def targets (answer : Except ClientError Frame) (source : Endpoint) : List Endpoint :=
  match classify answer source with
  | .ok (.moved _ target) | .ok (.ask _ target) => [target]
  | _ => []

variable {message : String} {source target : Endpoint} {slot : Nat}

/-- The arguments of a redirect are what follows its first word. -/
theorem append_of_after {front : String} {arguments : List Char}
    (follows : after? front message = some arguments) :
    message.toList = front.toList ++ arguments := by
  unfold after? at follows
  split at follows
  -- The word is the front of the message.
  · rename_i begins
    obtain ⟨rest, whole⟩ := List.isPrefixOf_iff_prefix.1 begins
    rw [← whole, List.drop_left, Option.some.injEq] at follows
    rw [← whole, follows]
  · cases follows

/-- The target of a redirect is the one that its arguments name. -/
theorem names_of_target {word : String} {arguments : List Char}
    (kind : word = "MOVED " ∨ word = "ASK ") (follows : after? word message = some arguments)
    (read : target? arguments source = some (slot, target)) :
    Frame.Names source (.error message) target := by
  unfold target? at read
  split at read
  -- There must be two words.
  · rename_i number address listed
    split at read
    · cases read
    · split at read
      · -- The slot is one of those that there are, so the address decides.
        obtain ⟨found, address_read, same⟩ := Option.map_eq_some_iff.1 read
        obtain ⟨-, rfl⟩ := Prod.mk.inj same
        unfold Endpoint.ofRedirect? at address_read
        rw [String.toList_ofList] at address_read
        split at address_read
        · cases address_read
        · rename_i host port cut
          obtain ⟨rfl, last⟩ := Endpoint.eq_of_splitLastColon cut
          -- The port must be a number.
          split at address_read
          · cases address_read
          · rename_i value numbered
            obtain rfl := Option.some.inj address_read
            refine .redirect (kind.imp (congrArg String.toList) (congrArg String.toList))
              (append_of_after follows) listed last numbered ?_
            -- A host without characters is the empty text.
            have empty : String.ofList (stripBrackets host) = "" ↔ stripBrackets host = [] := by
              rw [← String.toList_inj, String.toList_ofList]
              rfl
            simp only [empty]
      · cases read
  · cases read

/-- Whoever is redirected is redirected to a node that the reply names. -/
theorem names_of_classify {answer : Except ClientError Frame}
    (redirected : classify answer source = .ok (.moved slot target) ∨
      classify answer source = .ok (.ask slot target)) :
    ∃ reply, answer = .ok reply ∧ reply.Names source target := by
  rcases answer with error | reply
  -- Who is not answered is not redirected.
  · rcases redirected with redirected | redirected <;> simp only [classify] at redirected <;>
      split at redirected <;> simp at redirected
  · refine ⟨reply, rfl, ?_⟩
    cases reply with
    | error message =>
      simp only [classify, ofErrorReply] at redirected
      split at redirected
      · rename_i follows
        split at redirected
        · rename_i read
          -- Only `MOVED` moves a slot.
          simp only [Except.ok.injEq, Signal.moved.injEq, reduceCtorEq, or_false] at redirected
          obtain ⟨rfl, rfl⟩ := redirected
          exact names_of_target (.inl rfl) follows read
        · simp at redirected
      · rename_i follows
        split at redirected
        · rename_i read
          -- And only `ASK` asks.
          simp only [Except.ok.injEq, Signal.ask.injEq, reduceCtorEq, false_or] at redirected
          obtain ⟨rfl, rfl⟩ := redirected
          exact names_of_target (.inr rfl) follows read
        · simp at redirected
      -- The other errors redirect nobody.
      · rcases redirected with redirected | redirected <;> repeat' split at redirected
        all_goals simp at redirected
    | _ => simp [classify] at redirected

/-- Where an answer redirects to, the reply names. -/
theorem names_of_targets {answer : Except ClientError Frame} (listed : target ∈ targets answer source) :
    ∃ reply, answer = .ok reply ∧ reply.Names source target := by
  unfold targets at listed
  split at listed
  · rename_i slot found redirected
    exact List.mem_singleton.1 listed ▸ names_of_classify (.inl redirected)
  · rename_i slot found redirected
    exact List.mem_singleton.1 listed ▸ names_of_classify (.inr redirected)
  · cases listed

end Redirect

namespace Layout

variable {source : Endpoint} {entries : List Frame} {ranges : List SlotRange} {range : SlotRange}

/-- The entry of a range has two bounds in front, and then the entries of its nodes. -/
theorem eq_of_range {entry master : Frame} {first last : Nat} {replicas : List Frame}
    (bounds : range? entry = some (first, last, master, replicas)) :
    ∃ lower upper, entry = .array (lower :: upper :: master :: replicas) := by
  -- Each of the nested cases says what the entry has in front.
  unfold range? at bounds
  split at bounds
  · split at bounds
    · split at bounds
      · simp only [Option.some.injEq, Prod.mk.injEq] at bounds
        obtain ⟨-, -, rfl, rfl⟩ := bounds
        exact ⟨_, _, rfl⟩
      · cases bounds
    · cases bounds
  · cases bounds

/-- The entry of a node names its host and its port. -/
theorem eq_of_node {entry : Frame} {found : Endpoint} (named : node source entry = .ok found) :
    ∃ host port more text, entry = .array (host :: port :: more) ∧ host.asText = some text ∧
      port? port = some found.port ∧
      found.host = if text = "" ∨ text = "?" then source.host else text := by
  -- An entry of a node is an array of a host and a port at least.
  unfold node at named
  split at named
  · rename_i host port more
    split at named
    · cases named
    · rename_i text read
      split at named
      · cases named
      · rename_i value numbered
        obtain rfl := Except.ok.inj named
        exact ⟨host, port, more, text, rfl, read, numbered, rfl⟩
  · cases named
  · cases named

/-- The masters of a layout are those that the entries of the reply name. -/
theorem names_of_ofEntries (read : ofEntries source entries = .ok ranges) (listed : range ∈ ranges) :
    Frame.Names source (.array entries) range.master := by
  induction entries generalizing ranges with
  | nil =>
    obtain rfl := Except.ok.inj read
    -- An empty layout has no masters.
    cases listed
  | cons entry rest ih =>
    -- What the other entries name, all of them together name.
    have wider : ∀ {ranges}, ofEntries source rest = .ok ranges → range ∈ ranges →
        Frame.Names source (.array (entry :: rest)) range.master := by
      intro ranges others listed
      cases ih others listed with
      | master listed read numbered spelled =>
        exact .master (List.mem_cons_of_mem entry listed) read numbered spelled
    unfold ofEntries at read
    split at read
    · -- An entry that is malformed is skipped.
      exact wider read listed
    · rename_i first last master replicas bounds
      split at read
      · cases read
      · rename_i found named
        split at read
        · cases read
        · rename_i others remaining
          obtain rfl := Except.ok.inj read
          rcases List.mem_cons.1 listed with rfl | later
          · -- Behind the bounds stands the entry of the master.
            obtain ⟨lower, upper, rfl⟩ := eq_of_range bounds
            obtain ⟨host, port, more, text, rfl, read, numbered, spelled⟩ := eq_of_node named
            exact .master List.mem_cons_self read numbered spelled
          · exact wider remaining later

/-- Whatever a layout lists as a master, the reply names. -/
theorem names_of_ofReply {reply : Frame} (read : ofReply source reply = .ok ranges)
    (listed : range ∈ ranges) : reply.Names source range.master := by
  cases reply with
  -- Only an array is a layout.
  | array entries => exact names_of_ofEntries read listed
  | _ => simp [ofReply] at read

end Layout

end RedisCluster
