import RedisCluster.Proofs.Endpoint.Redirected
import RedisCluster.Proofs.Layout.Entries

/-! Layouts and redirects name nodes in two ways, and for which hosts these lead to the same node.
-/

namespace RedisCluster

/-- A host is hollow if it is made of brackets alone, the opening ones in front. -/
def Hollow (host : List Char) : Prop :=
  ∃ opening closing, host = List.replicate opening '[' ++ List.replicate closing ']'

/-- Nothing is left of a host without its brackets exactly if it is hollow. -/
theorem stripBrackets_eq_nil_iff {host : List Char} : stripBrackets host = [] ↔ Hollow host := by
  constructor
  · intro bare
    rw [stripBrackets, dropEndWhile, List.reverse_eq_nil_iff, List.dropWhile_eq_nil_iff] at bare
    -- The opening brackets end where the closing ones begin.
    refine ⟨(host.takeWhile (· == '[')).length, (host.dropWhile (· == '[')).length, ?_⟩
    have opening : host.takeWhile (· == '[') =
        List.replicate (host.takeWhile (· == '[')).length '[' :=
      List.eq_replicate_of_mem fun c member => by simpa using List.mem_takeWhile_imp member
    have closing : host.dropWhile (· == '[') =
        List.replicate (host.dropWhile (· == '[')).length ']' :=
      List.eq_replicate_of_mem fun c member => by simpa using bare c (List.mem_reverse.2 member)
    rw [← opening, ← closing, List.takeWhile_append_dropWhile]
  · rintro ⟨opening, closing, rfl⟩
    -- From the front only the opening brackets go, and from the back only the closing ones.
    have front : ∀ c ∈ List.replicate opening '[', (c == '[') = true := by simp
    have stops : (List.replicate closing ']').dropWhile (· == '[') =
        List.replicate closing ']' := by
      cases closing <;> simp [List.replicate_succ]
    have back : (List.replicate closing ']').dropWhile (· == ']') = [] := by simp
    rw [stripBrackets, List.dropWhile_append_of_pos front, stops, dropEndWhile,
      List.reverse_replicate, back, List.reverse_nil]

namespace Redirect

open Endpoint (announcedBy)

variable {source : Endpoint} {host : String} {slot : Nat}

/-- A redirect to a host and a port leads to the node that they announce. -/
theorem classify_written (port : UInt16) (known : slot < slotCount)
    (solid : ∀ c ∈ host.toList, isBlank c = false) :
    classify (.ok (.error ("MOVED " ++ toString slot ++ " " ++ host ++ ":" ++
          toString port.toNat))) source = .ok (.moved slot (announcedBy source ⟨host, port⟩)) ∧
      classify (.ok (.error ("ASK " ++ toString slot ++ " " ++ host ++ ":" ++
          toString port.toNat))) source = .ok (.ask slot (announcedBy source ⟨host, port⟩)) := by
  let address := host.toList ++ ':' :: Nat.toDigits 10 port.toNat
  have written (word : String) :
      (word ++ toString slot ++ " " ++ host ++ ":" ++ toString port.toNat).toList =
        word.toList ++ ((toString slot).toList ++ ' ' :: address) := by
    simp [address]
  -- Neither the host nor the port has a blank, and the colon is none.
  have solid_address : ∀ c ∈ address, isBlank c = false := by
    intro c member
    rw [List.mem_append, List.mem_cons] at member
    rcases member with inHost | rfl | inPort
    · exact solid c inHost
    · decide
    · exact solid_digits _ c inPort
  -- Whatever the host looks like, the last colon is the one before the port.
  have named : Endpoint.ofRedirect? (String.ofList address) source =
      some (announcedBy source ⟨host, port⟩) := by
    rw [Endpoint.ofRedirect_of_written source (String.toList_ofList), String.ofList_toList]
  have read := target_of_address known (by simp [address]) solid_address named
  exact ⟨classify_moved (written "MOVED ") read, classify_ask (written "ASK ") read⟩

end Redirect

namespace Endpoint

/-- The node that a layout means by a host and a port. -/
def listedBy (source : Endpoint) (host : String) (port : UInt16) : Endpoint :=
  ⟨if host = "" ∨ host = "?" then source.host else host, port⟩

variable {host : String}

/-- Without a host, both ways mean the host of the node that replies. -/
theorem listed_of_empty (source : Endpoint) (port : UInt16) :
    listedBy source "" port = ⟨source.host, port⟩ ∧
      announcedBy source ⟨"", port⟩ = ⟨source.host, port⟩ := by
  have bare : stripBrackets "".toList = [] := by decide
  exact ⟨rfl, announcedBy_of_unhosted bare⟩

/-- An unknown host means the one of the node that replies only in a layout. -/
theorem listed_of_unknown (source : Endpoint) (port : UInt16) :
    listedBy source "?" port = ⟨source.host, port⟩ ∧
      announcedBy source ⟨"?", port⟩ = ⟨"?", port⟩ := by
  -- The mark is some text, and it has no brackets.
  have given : "?" ≠ "" := by decide
  have opens : "?".toList.head? ≠ some '[' := by decide
  have closes : "?".toList.getLast? ≠ some ']' := by decide
  exact ⟨rfl, announcedBy_of_bare given opens closes⟩

/-- A hollow host means the one of the node that replies only in a redirect, unless it is empty. -/
theorem listed_of_hollow (given : host ≠ "") (hollow : Hollow host.toList) (source : Endpoint)
    (port : UInt16) :
    listedBy source host port = ⟨host, port⟩ ∧
      announcedBy source ⟨host, port⟩ = ⟨source.host, port⟩ := by
  have bare := stripBrackets_eq_nil_iff.2 hollow
  -- The mark is no bracket.
  have known : host ≠ "?" := by
    rintro rfl
    exact absurd bare (by decide)
  exact ⟨by rw [listedBy, if_neg (not_or.2 ⟨given, known⟩)], announcedBy_of_unhosted bare⟩

/-- Any other host means the same node both ways. -/
theorem listed_of_filled (given : host ≠ "") (known : host ≠ "?") (filled : ¬ Hollow host.toList)
    (source : Endpoint) (port : UInt16) :
    (listedBy source host port).sameNode (announcedBy source ⟨host, port⟩) = true := by
  have kept : listedBy source host port = ⟨host, port⟩ := by
    rw [listedBy, if_neg (not_or.2 ⟨given, known⟩)]
  -- Whatever is not hollow leaves a host.
  have hosted : stripBrackets host.toList ≠ [] := fun bare =>
    filled (stripBrackets_eq_nil_iff.1 bare)
  have announced : (announcedBy source ⟨host, port⟩).sameNode ⟨host, port⟩ = true :=
    sameNode_announcedBy hosted
  rw [kept, sameNode_iff]
  exact (sameNode_iff.1 announced).symm

/-- A hollow host is canonically empty. -/
theorem canonicalHost_of_hollow (hollow : Hollow host.toList) : canonicalHost host = "" := by
  rw [← canonicalHost_stripBrackets, stripBrackets_eq_nil_iff.2 hollow]
  decide

/-- A host means the same node both ways exactly if it is neither unknown nor hollow without being
empty, or if the node that replies has such a host itself. -/
theorem sameNode_listedBy_iff (source : Endpoint) (host : String) (port : UInt16) :
    (listedBy source host port).sameNode (announcedBy source ⟨host, port⟩) = true ↔
      (host = "?" → canonicalHost source.host = "?") ∧
        (host ≠ "" → Hollow host.toList → canonicalHost source.host = "") := by
  -- Hosts are hollow, or unknown, or neither; and the empty host is hollow.
  by_cases given : host ≠ ""
  · by_cases hollow : Hollow host.toList
    · obtain ⟨listed, announced⟩ := listed_of_hollow given hollow source port
      have known : host ≠ "?" := by
        rintro rfl
        exact absurd (stripBrackets_eq_nil_iff.2 hollow) (by decide)
      -- The layout keeps the brackets as a host.
      simp only [listed, announced, sameNode, beq_self_eq_true, Bool.true_and, beq_iff_eq,
        canonicalHost_of_hollow hollow, known, given, hollow, false_implies, true_and, ne_eq,
        not_false_eq_true, forall_const]
      exact eq_comm
    · by_cases known : host ≠ "?"
      · simp only [listed_of_filled given known hollow, known, hollow, false_implies, implies_true,
          and_self]
      · obtain rfl := not_not.1 known
        obtain ⟨listed, announced⟩ := listed_of_unknown source port
        have own : canonicalHost "?" = "?" := by decide
        -- The redirect keeps the mark as a host.
        simp only [listed, announced, sameNode, beq_self_eq_true, Bool.true_and, beq_iff_eq, own,
          hollow, false_implies, implies_true, and_true, forall_const]
  -- The empty host means the host of the node in both.
  · obtain rfl := not_not.1 given
    obtain ⟨listed, announced⟩ := listed_of_empty source port
    have unmarked : "" ≠ "?" := by decide
    simp only [listed, announced, sameNode, beq_self_eq_true, Bool.and_self, unmarked, ne_eq,
      not_true_eq_false, false_implies, and_self]

/-- A host without blanks and a port are read out of a layout and out of a redirect of the same
node, and both mean one node exactly if the host is neither `?` nor made of brackets alone, or if
this is just how the replying node is named. An empty host means the replying node in both; a
`?` does so only in a layout, and brackets alone only in a redirect. -/
theorem listed_and_redirected (source : Endpoint) (host : String) (port : UInt16)
    (solid : ∀ c ∈ host.toList, isBlank c = false) :
    ∃ listed target : Endpoint,
      (∀ (field : Frame) (number : Int64) (more : List Frame), field.asText = some host →
        number.toInt = port.toNat →
        Layout.node source (.array (field :: .integer number :: more)) = .ok listed) ∧
      (∀ slot < slotCount,
        Redirect.classify (.ok (.error ("MOVED " ++ toString slot ++ " " ++ host ++ ":" ++
            toString port.toNat))) source = .ok (.moved slot target) ∧
          Redirect.classify (.ok (.error ("ASK " ++ toString slot ++ " " ++ host ++ ":" ++
            toString port.toNat))) source = .ok (.ask slot target)) ∧
      (listed.sameNode target = true ↔ (host = "?" → canonicalHost source.host = "?") ∧
        (host ≠ "" → Hollow host.toList → canonicalHost source.host = "")) ∧
      (host = "" → listed = ⟨source.host, port⟩ ∧ target = ⟨source.host, port⟩) ∧
      (host = "?" → listed = ⟨source.host, port⟩ ∧ target = ⟨"?", port⟩) ∧
      (host ≠ "" → Hollow host.toList →
        listed = ⟨host, port⟩ ∧ target = ⟨source.host, port⟩) := by
  refine ⟨listedBy source host port, announcedBy source ⟨host, port⟩, ?_,
    fun slot known => Redirect.classify_written port known solid,
    sameNode_listedBy_iff source host port, ?_, ?_,
    fun given hollow => listed_of_hollow given hollow source port⟩
  -- A layout reads the host and the port as they are.
  · intro field number more read numbered
    exact Layout.node_eq_ok_iff.2 (.node read numbered rfl)
  · rintro rfl
    exact listed_of_empty source port
  · rintro rfl
    exact listed_of_unknown source port

/-- A host in brackets means the same node both ways. -/
theorem listed_and_redirected_bracketed :
    ∃ listed target : Endpoint,
      Layout.node ⟨"10.0.0.1", 7000⟩ (.array [.ofText "[fe80::A]", .integer 7001]) = .ok listed ∧
      Redirect.classify (.ok (.error "MOVED 16383 [fe80::A]:7001")) ⟨"10.0.0.1", 7000⟩ =
        .ok (.moved 16383 target) ∧
      listed.sameNode target = true := by
  have solid : ∀ c ∈ "[fe80::A]".toList, isBlank c = false := by simp [isBlank]
  -- Letters are no brackets.
  have filled : ¬ Hollow "[fe80::A]".toList := fun hollow =>
    absurd (stripBrackets_eq_nil_iff.2 hollow) (by decide)
  obtain ⟨listed, target, inLayout, inRedirect, same, -⟩ :=
    listed_and_redirected ⟨"10.0.0.1", 7000⟩ "[fe80::A]" 7001 solid
  have written : "MOVED " ++ toString 16383 ++ " " ++ "[fe80::A]" ++ ":" ++
      toString (7001 : UInt16).toNat = "MOVED 16383 [fe80::A]:7001" := by decide
  -- The announcement is this very message.
  have moved := (inRedirect 16383 (by decide)).1
  rw [written] at moved
  have read : Layout.node ⟨"10.0.0.1", 7000⟩ (.array [.ofText "[fe80::A]", .integer 7001]) =
      .ok listed := inLayout (.ofText "[fe80::A]") 7001 [] (by decide) (by decide)
  have one : listed.sameNode target = true :=
    same.2 ⟨fun unknown => absurd unknown (by decide), fun _ hollow => absurd hollow filled⟩
  exact ⟨listed, target, read, moved, one⟩

/-- An unknown host is that of the node which replies in a layout, and a host of its own in a
redirect. -/
theorem unknown_host_apart :
    Layout.node ⟨"10.0.0.1", 7000⟩ (.array [.ofText "?", .integer 7001]) =
        .ok ⟨"10.0.0.1", 7001⟩ ∧
      Redirect.classify (.ok (.error "MOVED 1 ?:7001")) ⟨"10.0.0.1", 7000⟩ =
        .ok (.moved 1 ⟨"?", 7001⟩) ∧
      (Endpoint.mk "10.0.0.1" 7001).sameNode ⟨"?", 7001⟩ = false := by
  decide

end Endpoint

end RedisCluster
