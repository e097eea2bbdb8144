import RedisCluster.Text.Blank
import RedisCluster.Text.Decimal
import RedisCluster.Text.Outline
import RedisCluster.Text.Quoted

/-! Endpoints of nodes and the identity that their spellings share. -/

namespace RedisCluster

/-- Where a node listens, with the host as it was spelled. -/
structure Endpoint where
  host : String
  port : UInt16
deriving Repr, DecidableEq, Inhabited

/-- A host without the brackets around it. -/
def stripBrackets (host : List Char) : List Char :=
  dropEndWhile (· == ']') (host.dropWhile (· == '['))

/-- The spellings of the loopback host. -/
def loopbackHosts : List String :=
  ["127.0.0.1", "::1", "0:0:0:0:0:0:0:1", "localhost"]

/-- The one spelling that stands for all spellings of a host. -/
def canonicalHost (host : String) : String :=
  let plain := String.ofList ((stripBrackets host.toList).map Char.toLower)
  if loopbackHosts.contains plain then "localhost" else plain

/-- A host and a port as one text; a host with a colon stands in brackets. -/
def joinHostPort (host : String) (port : UInt16) : String :=
  -- Otherwise the last colon would be taken for the one of the port.
  let shown := if host.toList.contains ':' then "[" ++ host ++ "]" else host
  shown ++ ":" ++ toString port.toNat

namespace Endpoint

/-- The key that identifies a node under every spelling of its host. -/
def nodeKey (endpoint : Endpoint) : String :=
  joinHostPort (canonicalHost endpoint.host) endpoint.port

/-- The address to connect to. -/
def socketAddress (endpoint : Endpoint) : String :=
  joinHostPort endpoint.host endpoint.port

/-- Endpoints name the same node when their ports and canonical hosts agree. -/
def sameNode (a b : Endpoint) : Bool :=
  a.port == b.port && canonicalHost a.host == canonicalHost b.host

/-- The distinct nodes among some endpoints, each under its first spelling. -/
def distinct (endpoints : List Endpoint) : List Endpoint :=
  endpoints.foldl
    -- Later spellings of a node are left out.
    (fun seen endpoint => if seen.any (·.sameNode endpoint) then seen else seen ++ [endpoint]) []

/-- An endpoint as messages show it. -/
def outline (endpoint : Endpoint) : String :=
  Outline.record "NodeEndpoint"
    [("host", Quoted.text endpoint.host), ("port", toString endpoint.port.toNat)]

/-- Splits a text at its last colon. -/
def splitLastColon? (text : List Char) : Option (List Char × List Char) :=
  if text.contains ':' then
    -- Read from its end, the text shows its last colon first.
    let reversed := text.reverse
    some (((reversed.dropWhile (· ≠ ':')).drop 1).reverse, (reversed.takeWhile (· ≠ ':')).reverse)
  else none

/-- The endpoint that a redirect names; an empty host stands for the host of the replying node. -/
def ofRedirect? (address : String) (source : Endpoint) : Option Endpoint :=
  match splitLastColon? address.toList with
  | none => none
  | some (host, port) =>
    match Decimal.uint16? port with
    | none => none
    | some port =>
      let plain := String.ofList (stripBrackets host)
      some ⟨if plain = "" then source.host else plain, port⟩

end Endpoint

/-- Maps the addresses that a cluster advertises to those that the client can reach. -/
inductive Translator where
  | identity
  | custom (translate : Endpoint → Endpoint)

namespace Translator

/-- The address to use for an advertised one. -/
def apply : Translator → Endpoint → Endpoint
  | identity, endpoint => endpoint
  | custom translate, endpoint => translate endpoint

/-- A translator as messages show it. -/
def outline : Translator → String
  | identity => Outline.tagged "AddressTranslator" (Quoted.text "identity")
  | custom _ => Outline.tagged "AddressTranslator" (Quoted.text "custom")

end Translator

/-- One line of a translator table; a missing part matches or keeps anything. -/
structure TranslatorRule where
  host : Option String
  port : Option UInt16
  toHost : Option String
  toPort : Option UInt16

namespace TranslatorRule

/-- The rule covers an endpoint. -/
def covers (rule : TranslatorRule) (endpoint : Endpoint) : Bool :=
  rule.host.all (· == endpoint.host) && rule.port.all (· == endpoint.port)

/-- The endpoint with the parts that the rule replaces. -/
def apply (rule : TranslatorRule) (endpoint : Endpoint) : Endpoint :=
  ⟨rule.toHost.getD endpoint.host, rule.toPort.getD endpoint.port⟩

/-- The translator that uses the first rule of a table covering an endpoint. -/
def translator (table : List TranslatorRule) : Translator :=
  .custom fun endpoint =>
    -- The first line that covers an endpoint decides, and without one it stays.
    match table.find? (·.covers endpoint) with
    | some rule => rule.apply endpoint
    | none => endpoint

end TranslatorRule

end RedisCluster
