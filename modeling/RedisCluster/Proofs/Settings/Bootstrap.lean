import Mathlib
import RedisCluster.Client
import RedisCluster.Proofs.Endpoint.NodeKey
import RedisCluster.Proofs.Endpoint.Spelled
import RedisCluster.Proofs.Settings.Last

/-! Endpoints that a client is given in its settings are read back as they were before it starts from
them. -/

namespace RedisCluster

/-- All items of a list can be read if each of them can. -/
theorem mapM_eq_ok_iff {α β ε : Type} {read : α → Except ε β} {items : List α} {values : List β} :
    items.mapM read = .ok values ↔
      List.Forall₂ (fun item value => read item = .ok value) items values := by
  induction items generalizing values with
  | nil =>
    rw [List.forall₂_nil_left_iff]
    exact ⟨fun same => (Except.ok.inj same).symm, fun same => same ▸ rfl⟩
  | cons item items ih =>
    rw [List.mapM_cons, List.forall₂_cons_left_iff]
    simp only [← ih]
    -- What is read of the others counts only if the first item can be read.
    cases first : read item with
    | error error => simp [bind, Except.bind]
    | ok value =>
      cases others : items.mapM read <;> simp [bind, Except.bind, pure, Except.pure, eq_comm]

namespace Endpoint

/-- The host of an endpoint is a plain name: it is not empty, and it is made of letters, digits,
dots, dashes and underscores. -/
@[mk_iff]
structure IsPlain (endpoint : Endpoint) : Prop where
  given : endpoint.host ≠ ""
  made : ∀ c ∈ endpoint.host.toList, c.isAlphanum = true ∨ c = '.' ∨ c = '-' ∨ c = '_'

/-- The characters of a plain address lie among the printed ones, behind the comma. -/
def IsPrinted (c : Char) : Prop :=
  0x2D ≤ c.toNat ∧ c.toNat < 0x7F

/-- Printed characters are not blank. -/
theorem IsPrinted.isBlank_eq_false {c : Char} (printed : IsPrinted c) : isBlank c = false := by
  obtain ⟨least, most⟩ := printed
  -- The blanks lie before the printed characters or behind them.
  simp only [isBlank, Bool.or_eq_false_iff, Bool.and_eq_false_iff, decide_eq_false_iff_not,
    beq_eq_false_iff_ne]
  omega

variable {c : Char} {endpoint : Endpoint}

/-- The letters and digits are printed. -/
theorem isPrinted_of_isAlphanum (letter : c.isAlphanum = true) : IsPrinted c := by
  -- Letters and digits have numbers within these bounds.
  simp only [Char.isAlphanum, Char.isAlpha, Char.isUpper, Char.isLower, Char.isDigit, ge_iff_le,
    UInt32.le_iff_toNat_le, Bool.or_eq_true, Bool.and_eq_true, decide_eq_true_eq] at letter
  change 0x2D ≤ c.val.toNat ∧ c.val.toNat < 0x7F
  simp only [Char.reduceVal, UInt32.reduceToNat] at letter
  omega

namespace IsPlain

/-- The characters of a plain host are printed. -/
theorem isPrinted (plain : endpoint.IsPlain) (member : c ∈ endpoint.host.toList) : IsPrinted c := by
  rcases plain.made c member with letter | rfl | rfl | rfl
  · exact isPrinted_of_isAlphanum letter
  -- The dot, the dash and the underscore are printed, too.
  all_goals exact ⟨by decide, by decide⟩

/-- The characters of a plain host have no other meaning in a URL. -/
theorem isForbidden_eq_false (plain : endpoint.IsPlain) (member : c ∈ endpoint.host.toList) :
    Uri.isForbidden c = false := by
  have other (d : Char) (odd : ¬(d.isAlphanum = true ∨ d = '.' ∨ d = '-' ∨ d = '_')) : c ≠ d := by
    rintro rfl
    -- A character that means something in a URL is none of these.
    exact odd (plain.made c member)
  simp [Uri.isForbidden, other]

/-- A plain host is spelled as it is. -/
theorem hostSpelling (plain : endpoint.IsPlain) :
    HostSpelling endpoint.host.toList endpoint.host := by
  -- No character is percent-encoded.
  have kept : endpoint.host.toList.flatMap Uri.encodeHostChar = endpoint.host.toList := by
    rw [← List.flatMap_singleton' endpoint.host.toList, List.flatMap_assoc]
    refine List.flatMap_congr fun c member => ?_
    obtain ⟨least, most⟩ := plain.isPrinted member
    simp only [List.flatMap_singleton, Uri.encodeHostChar]
    rw [if_pos (by simp; omega)]
  have given : endpoint.host.toList ≠ [] := fun none =>
    plain.given (String.toList_eq_nil_iff.1 none)
  have spelled := HostSpelling.name given fun c => plain.isForbidden_eq_false
  rwa [kept, String.ofList_toList] at spelled

/-- A plain endpoint is displayed as its host and the digits of its port. -/
theorem toList_socketAddress (plain : endpoint.IsPlain) : endpoint.socketAddress.toList =
    endpoint.host.toList ++ portText (some (Nat.toDigits 10 endpoint.port.toNat)) := by
  -- Only a host with a colon is put in brackets.
  have single : ':' ∉ endpoint.host.toList := by
    intro member
    exact absurd (plain.isForbidden_eq_false member) (by decide)
  rw [socketAddress, joinHostPort_toList, shownHost, if_neg single, portText]

/-- The text of a plain endpoint is printed. -/
theorem isPrinted_of_mem_socketAddress (plain : endpoint.IsPlain)
    (member : c ∈ endpoint.socketAddress.toList) : IsPrinted c := by
  rw [plain.toList_socketAddress, portText, List.mem_append, List.mem_cons] at member
  obtain host | rfl | port := member
  · exact plain.isPrinted host
  · exact ⟨by decide, by decide⟩
  -- The digits of a port are digits.
  · refine isPrinted_of_isAlphanum ?_
    simp [Char.isAlphanum, Decimal.isDigit_of_mem port]

end IsPlain

/-- What may stand in front of an address: nothing, or the scheme. -/
def IsLead (lead : List Char) : Prop :=
  lead = [] ∨ lead = "redis://".toList

variable {lead : List Char}

/-- The text of a plain endpoint is one of the documented forms of it, with the scheme and without. -/
theorem IsPlain.documented (plain : endpoint.IsPlain) (leads : IsLead lead) :
    Documented (lead ++ endpoint.socketAddress.toList) endpoint := by
  have small := endpoint.port.toNat_lt
  -- The digits of the port denote it, and it is small enough.
  have numbered : PortSpelling (some (Nat.toDigits 10 endpoint.port.toNat)) endpoint.port := by
    simpa using PortSpelling.number (Decimal.digits?_toDigits endpoint.port.toNat) small
  refine ⟨endpoint.host.toList, _, plain.hostSpelling, fun c member => ?_, numbered, ?_, ?_⟩
  · have := (plain.isPrinted member).1
    omega
  · simp
  · rw [plain.toList_socketAddress]
    exact leads.imp (fun none => by rw [none]; rfl) fun scheme => by rw [scheme]

/-- The text of a plain endpoint is printed, with the scheme and without. -/
theorem IsPlain.isPrinted_address (plain : endpoint.IsPlain) (leads : IsLead lead)
    (member : c ∈ lead ++ endpoint.socketAddress.toList) : IsPrinted c := by
  obtain front | shown := List.mem_append.1 member
  · obtain rfl | rfl := leads
    · cases front
    -- The scheme is printed.
    · have printed : ∀ d ∈ "redis://".toList, IsPrinted d := by simp [IsPrinted]
      exact printed c front
  · exact plain.isPrinted_of_mem_socketAddress shown

/-- A plain endpoint is read from its text, with the scheme and without. -/
theorem IsPlain.ofAddress (plain : endpoint.IsPlain) (leads : IsLead lead) :
    Endpoint.ofAddress (String.ofList (lead ++ endpoint.socketAddress.toList)) = .ok endpoint := by
  -- What is documented is spelled, and nothing has to be trimmed.
  obtain ⟨spelling, names, bare⟩ := documented_iff.1 (plain.documented leads)
  have trimmed : trimBlanks (lead ++ endpoint.socketAddress.toList) =
      lead ++ endpoint.socketAddress.toList := by
    have nothing : ∀ c ∈ ([] : List Char), isBlank c = true := List.forall_mem_nil _
    simpa using trimBlanks_around nothing
      (fun c member => (plain.isPrinted_address leads member).isBlank_eq_false) nothing
  refine ofAddress_iff_spelled.2 ⟨spelling, names, ?_⟩
  rw [String.toList_ofList, trimmed]
  exact spells_of_bare names bare

/-- Some addresses are accepted as some endpoints, one after the other. -/
abbrev AllNamed (addresses : List String) (endpoints : List Endpoint) : Prop :=
  List.Forall₂ (fun address endpoint => ofAddress address = .ok endpoint) addresses endpoints

end Endpoint

namespace Settings

/-- An item of an address list, and the endpoints that it gives: none if it is blank, and otherwise
one in its displayed form, which may stand behind the scheme and between blanks. -/
inductive Item : List Char → List Endpoint → Prop where
  | blank {text : List Char} (blank : ∀ c ∈ text, isBlank c = true) : Item text []
  | shown {front lead back : List Char} {endpoint : Endpoint}
      (before : ∀ c ∈ front, isBlank c = true) (leads : Endpoint.IsLead lead)
      (behind : ∀ c ∈ back, isBlank c = true) :
      Item (front ++ (lead ++ endpoint.socketAddress.toList) ++ back) [endpoint]

end Settings

/-- A setting that is about the nodes to start from. -/
def Setting.IsAboutNodes : Setting → Prop
  | .node _ | .nodes _ | .addresses _ => True
  | _ => False

/-- A setting, and the endpoints that it gives: those that it is made with, or those of the items that
it lists with commas between them. -/
inductive Setting.Gives : Setting → List Endpoint → Prop where
  | node (endpoint : Endpoint) : Gives (.node endpoint) [endpoint]
  | nodes (endpoints : List Endpoint) : Gives (.nodes endpoints) endpoints
  | addresses {text : String} {items : List (List Char)} {named : List (List Endpoint)}
      (listed : text.toList = [','].intercalate items) (each : List.Forall₂ Settings.Item items named) :
      Gives (.addresses text) named.flatten
  | other {setting : Setting} (other : ¬setting.IsAboutNodes) : Gives setting []

namespace Settings

namespace Item

variable {text : List Char} {items : List (List Char)} {endpoints : List Endpoint}
  {named : List (List Endpoint)}

/-- No item holds a comma. -/
theorem comma_not_mem (item : Item text endpoints) (plain : ∀ e ∈ endpoints, e.IsPlain) :
    ',' ∉ text := by
  have solid : isBlank ',' = false := by decide
  cases item with
  -- An item of blanks has no comma.
  | blank blank =>
    intro member
    exact absurd (blank ',' member) (by simp [solid])
  | shown before leads behind =>
    rw [List.mem_append, List.mem_append]
    rintro ((member | member) | member)
    · exact absurd (before ',' member) (by simp [solid])
    -- A printed character lies behind the comma.
    · have printed := (plain _ List.mem_cons_self).isPrinted_address leads member
      exact absurd printed.1 (by decide)
    · exact absurd (behind ',' member) (by simp [solid])

/-- No item of a list holds a comma. -/
theorem forall_comma_not_mem (each : List.Forall₂ Item items named)
    (plain : ∀ e ∈ named.flatten, e.IsPlain) : ∀ item ∈ items, ',' ∉ item := by
  induction each with
  | nil => exact List.forall_mem_nil _
  | cons first _ ih =>
    rw [List.flatten_cons, List.forall_mem_append] at plain
    exact List.forall_mem_cons.2 ⟨first.comma_not_mem plain.1, ih plain.2⟩

/-- The trimmed items without the empty ones are the addresses of what they give. -/
theorem allNamed (each : List.Forall₂ Item items named)
    (plain : ∀ e ∈ named.flatten, e.IsPlain) :
    Endpoint.AllNamed
      (((items.map trimBlanks).filter fun item => !item.isEmpty).map String.ofList)
      named.flatten := by
  induction each with
  | nil => exact .nil
  | @cons text endpoints items named item _ ih =>
    rw [List.flatten_cons, List.forall_mem_append] at plain
    have others := ih plain.2
    cases item with
    -- A blank item is empty once it is trimmed.
    | blank blank => simpa [trimBlanks_of_blank blank] using others
    | @shown front lead back endpoint before leads behind =>
      -- The blanks are trimmed, and what is left is the address of the endpoint.
      have address := plain.1 endpoint List.mem_cons_self
      have trimmed := trimBlanks_around before
        (fun c member => (address.isPrinted_address leads member).isBlank_eq_false) behind
      have some_text : lead ++ endpoint.socketAddress.toList ≠ [] := by
        rw [address.toList_socketAddress]
        simp [portText]
      rw [List.map_cons, trimmed, List.filter_cons_of_pos (by simpa using some_text)]
      exact .cons (address.ofAddress leads) others

end Item

variable {setting : Setting} {made : List Setting} {endpoints : List Endpoint}
  {named : List (List Endpoint)}

/-- The addresses that a setting adds are those of the endpoints that it gives. -/
theorem allNamed_adds (gives : setting.Gives endpoints) (plain : ∀ e ∈ endpoints, e.IsPlain) :
    Endpoint.AllNamed setting.adds endpoints := by
  have direct {endpoint : Endpoint} (is_plain : endpoint.IsPlain) :
      -- With nothing in front the address is the text of the endpoint.
      Endpoint.ofAddress endpoint.socketAddress = .ok endpoint := by
    simpa using is_plain.ofAddress (.inl rfl)
  cases gives with
  | node endpoint => exact .cons (direct (plain endpoint List.mem_cons_self)) .nil
  | nodes =>
    -- Each of the endpoints is given by its own text.
    refine List.forall₂_map_left_iff.2 (List.forall₂_same.2 fun endpoint member => ?_)
    exact direct (plain endpoint member)
  | @addresses text items named listed each =>
    rw [Setting.adds, splitAddresses, listed]
    cases items with
    | nil =>
      -- Of nothing there is one piece, and it is empty.
      cases each
      exact .nil
    | cons first items =>
      -- No item has a comma, so the pieces are the items.
      rw [pieces_intercalate (List.cons_ne_nil first items) (Item.forall_comma_not_mem each plain)]
      exact Item.allNamed each plain
  | other other =>
    -- All other settings are about something else and add no address.
    cases setting
    case node | nodes | addresses => exact absurd trivial other
    all_goals exact .nil

/-- All addresses are those of the endpoints that are given, in their order. -/
theorem allNamed_given (gives : List.Forall₂ Setting.Gives made named)
    (plain : ∀ e ∈ named.flatten, e.IsPlain) :
    Endpoint.AllNamed (given made) named.flatten := by
  induction gives with
  | nil => exact .nil
  | cons first _ ih =>
    rw [List.flatten_cons, List.forall_mem_append] at plain
    -- The addresses of the first setting stand in front.
    exact List.rel_append (allNamed_adds first plain.1) (ih plain.2)

/-- The endpoints to start from are read from the addresses that were given. -/
theorem bootstrap_ofList (made : List Setting) : (ofList made).bootstrap =
    if given made = [] then .error (.invalidArgument "at least one node address is required")
    else (given made).mapM Endpoint.ofAddress := by
  -- The addresses are those that were given.
  rw [bootstrap, addresses_ofList]

/-- Settings that pass the check describe a client, which starts from their endpoints. -/
theorem build_of_check {settings : Settings} {bootstrap : List Endpoint}
    (passed : settings.check = .ok bootstrap) : Client.build settings = .ok {
      state := .initial settings.pool
      connection := settings.connection
      program := do
        let _ ← Discovery.start settings.translator bootstrap
        return Client.ofSettings settings } := by
  rw [Client.build, passed]

/-- Endpoints with plain hosts are those that a client starts from, with the same hosts and ports and
in the order in which they are given: one by one, several at once, or in a list with commas that shows
them, with the scheme or without, and with blanks and empty items between them. -/
theorem bootstrap_as_given (gives : List.Forall₂ Setting.Gives made named)
    (plain : ∀ e ∈ named.flatten, e.IsPlain) :
    let settings := ofList made
    settings.bootstrap = (if named.flatten = [] then
      .error (.invalidArgument "at least one node address is required") else .ok named.flatten) ∧
    (named.flatten ≠ [] → settings.maxRedirects ≠ 0 → Client.build settings = .ok {
      state := .initial settings.pool
      connection := settings.connection
      program := do
        let _ ← Discovery.start settings.translator named.flatten
        return Client.ofSettings settings }) := by
  intro settings
  have each := allNamed_given gives plain
  have found : settings.bootstrap = (if named.flatten = [] then
      .error (.invalidArgument "at least one node address is required")
      else .ok named.flatten) := by
    -- There are as many addresses as endpoints.
    have same : given made = [] ↔ named.flatten = [] := by
      rw [← List.length_eq_zero_iff, each.length_eq, List.length_eq_zero_iff]
    simp only [settings, bootstrap_ofList, mapM_eq_ok_iff.2 each, same]
  refine ⟨found, fun some_node attempts => build_of_check ?_⟩
  rw [check, found, if_neg some_node]
  exact if_neg attempts

/-- Hosts that look like numbers, the port zero, the default port and capital letters stay as they
are, in an address list with the scheme, blanks and empty items as well as on their own. -/
theorem bootstrap_as_given_mixed :
    let made : List Setting := [.addresses " node-1.example:7000 ,,redis://127.1:0, ",
      .username "app", .node ⟨"a_b", 6379⟩, .nodes [⟨"10", 7001⟩, ⟨"LocalHost", 65535⟩]]
    let endpoints : List Endpoint := [⟨"node-1.example", 7000⟩, ⟨"127.1", 0⟩, ⟨"a_b", 6379⟩,
      ⟨"10", 7001⟩, ⟨"LocalHost", 65535⟩]
    (ofList made).bootstrap = .ok endpoints ∧ Client.build (ofList made) = .ok {
      state := .initial (ofList made).pool
      connection := (ofList made).connection
      program := do
        let _ ← Discovery.start .identity endpoints
        return Client.ofSettings (ofList made) } := by
  intro made endpoints
  -- One blank and nothing are both blank.
  have space : ∀ c ∈ [' '], isBlank c = true := by simp [isBlank]
  have nothing : ∀ c ∈ ([] : List Char), isBlank c = true := List.forall_mem_nil _
  have listed : " node-1.example:7000 ,,redis://127.1:0, ".toList = [','].intercalate
      [[' '] ++ ([] ++ (⟨"node-1.example", 7000⟩ : Endpoint).socketAddress.toList) ++ [' '], [],
        [] ++ ("redis://".toList ++ (⟨"127.1", 0⟩ : Endpoint).socketAddress.toList) ++ [], [' ']] := by
    decide +kernel
  have items := Setting.Gives.addresses listed (.cons (.shown space (.inl rfl) space) <|
    .cons (.blank nothing) <| .cons (.shown nothing (.inr rfl) nothing) <| .cons (.blank space) .nil)
  have gives : List.Forall₂ Setting.Gives made _ :=
    .cons items <| .cons (.other id) <| .cons (.node _) <| .cons (.nodes _) .nil
  -- Each of the hosts is made of plain characters.
  obtain ⟨found, built⟩ := bootstrap_as_given gives (by simp [Endpoint.isPlain_iff])
  exact ⟨found, built (by simp) (by decide)⟩

end Settings

end RedisCluster
