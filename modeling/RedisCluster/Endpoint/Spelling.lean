import RedisCluster.Endpoint.Address

/-! The forms in which an address can be written: a host and a port, and what may stand around them.
-/

namespace RedisCluster

namespace Ipv6

/-- A group of an address: up to four hexadecimal digits. -/
def IsGroup (digits : List Char) : Prop :=
  digits ≠ [] ∧ digits.length ≤ 4 ∧ ∀ c ∈ digits, (Hex.digit? c).isSome

/-- Groups in a row, with colons between them. Where dots are allowed, the last two groups may be
written as four octets in decimal. -/
inductive Groups : Bool → List Char → List Nat → Prop where
  | last {dots : Bool} {digits : List Char} (group : IsGroup digits) :
      Groups dots digits [hexValue digits]
  | octets {a b c d : Nat} (small : a < 256 ∧ b < 256 ∧ c < 256 ∧ d < 256) :
      Groups true (Nat.toDigits 10 a ++ '.' :: (Nat.toDigits 10 b ++ '.' ::
        (Nat.toDigits 10 c ++ '.' :: Nat.toDigits 10 d))) [a * 256 + b, c * 256 + d]
  | more {dots : Bool} {digits rest : List Char} {values : List Nat} (group : IsGroup digits)
      (others : Groups dots rest values) :
      Groups dots (digits ++ ':' :: rest) (hexValue digits :: values)

/-- Groups in a row, or nothing. -/
def Side (dots : Bool) (text : List Char) (values : List Nat) : Prop :=
  text = [] ∧ values = [] ∨ Groups dots text values

/-- The text of an address: its eight groups, or fewer on both sides of a double colon, which stands
for the groups of zeros that are missing. -/
inductive Literal : List Char → List Nat → Prop where
  | full {text : List Char} {values : List Nat} (listed : Groups true text values)
      (eight : values.length = 8) : Literal text values
  | gap {front back : List Char} {high low : List Nat} (before : Side false front high)
      (behind : Side true back low) (fewer : high.length + low.length < 8) :
      Literal (front ++ ':' :: ':' :: back)
        (high ++ List.replicate (8 - (high.length + low.length)) 0 ++ low)

end Ipv6

/-- A host as an address writes it, and as the endpoint has it: a name, or an address of the sixth
version in brackets. -/
inductive HostSpelling : List Char → String → Prop where
  | name {text : List Char} (given : text ≠ []) (allowed : ∀ c ∈ text, Uri.isForbidden c = false) :
      HostSpelling text (String.ofList (text.flatMap Uri.encodeHostChar))
  | literal {text : List Char} {groups : List Nat} (read : Ipv6.Literal text groups) :
      HostSpelling ('[' :: (text ++ [']'])) (Ipv6.text groups)

/-- The digits of a port, and the port that they mean; without any, it is the default port. -/
inductive PortSpelling : Option (List Char) → UInt16 → Prop where
  | absent : PortSpelling none defaultPort
  | empty : PortSpelling (some []) defaultPort
  | number {digits : List Char} {n : Nat} (read : Decimal.digits? digits = some n)
      (small : n < 65536) : PortSpelling (some digits) (UInt16.ofNat n)

/-- A port behind its colon. -/
def portText : Option (List Char) → List Char
  | none => []
  | some digits => ':' :: digits

/-- The documented forms of an address: a host that may have a port, alone or behind the scheme. -/
def Documented (text : List Char) (endpoint : Endpoint) : Prop :=
  ∃ host port, HostSpelling host endpoint.host ∧ (∀ c ∈ host, 0x20 < c.toNat) ∧
    PortSpelling port endpoint.port ∧ port ≠ some [] ∧
    (text = host ++ portText port ∨ text = "redis://".toList ++ (host ++ portText port))

/-- A URL, part by part as it is written. -/
structure Spelling where
  scheme : List Char
  user : Option (List Char)
  host : List Char
  port : Option (List Char)
  tail : List Char

namespace Spelling

/-- The user info before its at-sign. -/
def userText : Option (List Char) → List Char
  | none => []
  | some user => user ++ ['@']

/-- The parts behind the scheme in a row. -/
def rest (spelling : Spelling) : List Char :=
  userText spelling.user ++ (spelling.host ++ (portText spelling.port ++ spelling.tail))

/-- The parts in a row. -/
def text (spelling : Spelling) : List Char :=
  spelling.scheme ++ "://".toList ++ spelling.rest

/-- What may stand behind a host and a port: a path, a query or a fragment. Behind the colon of a
port, a backslash begins a path as well, unless an at-sign makes all before it user info. -/
inductive Tail (port : Option (List Char)) : List Char → Prop where
  | none : Tail port []
  | part {c : Char} {rest : List Char} (begins : Uri.endsAuthority .other c = true) :
      Tail port (c :: rest)
  | backslash {rest : List Char} (behind : port ≠ Option.none)
      (unmarked : '@' ∉ rest.takeWhile fun c => !Uri.endsAuthority .other c) :
      Tail port ('\\' :: rest)

/-- The parts are what they should be, and the host and the port mean those of an endpoint. -/
structure Names (spelling : Spelling) (endpoint : Endpoint) : Prop where
  scheme : spelling.scheme.map Char.toLower = "redis".toList
  user : ∀ user ∈ spelling.user, ∀ c ∈ user, Uri.endsAuthority .other c = false
  host : HostSpelling spelling.host endpoint.host
  port : PortSpelling spelling.port endpoint.port
  tail : Tail spelling.port spelling.tail

end Spelling

namespace Endpoint

/-- The URL that an address stands for: the address, behind the scheme if it has none. -/
def url (address : List Char) : List Char :=
  if hasInfix "://".toList address then address else "redis://".toList ++ address

end Endpoint

namespace Spelling

/-- An address is spelled in these parts once what a URL ignores is gone from it: controls and
spaces around it, tabs and line breaks inside. -/
def Spells (spelling : Spelling) (address : List Char) : Prop :=
  Uri.clean (Endpoint.url address) = spelling.text

/-- An address is spelled in a host and perhaps a port, and in nothing besides. -/
structure Bare (spelling : Spelling) (address : List Char) : Prop where
  whole : Endpoint.url address = spelling.text
  scheme : spelling.scheme = "redis".toList
  user : spelling.user = none
  host : ∀ c ∈ spelling.host, 0x20 < c.toNat
  port : spelling.port ≠ some []
  tail : spelling.tail = []

end Spelling

end RedisCluster
