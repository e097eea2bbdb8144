import RedisCluster.Endpoint.Ipv6
import RedisCluster.Text.Utf8

/-! Scheme, host and port of a URL, read by the rules of the URL standard. -/

namespace RedisCluster

/-- Why a text is no URL. -/
inductive UriError where
  | relativeWithoutBase
  | emptyHost
  | invalidPort
  | invalidIpv4
  | invalidIpv6
  | invalidDomainCharacter
  | invalidDomainName
deriving Repr, DecidableEq

namespace UriError

/-- The text of a URL error. -/
def message : UriError → String
  | relativeWithoutBase => "relative URL without a base"
  | emptyHost => "empty host"
  | invalidPort => "invalid port number"
  | invalidIpv4 => "invalid IPv4 address"
  | invalidIpv6 => "invalid IPv6 address"
  | invalidDomainCharacter => "invalid domain character"
  | invalidDomainName => "invalid international domain name"

end UriError

/-- The parts of a URL that say where to connect. -/
structure Uri where
  scheme : String
  host : Option String
  port : Option UInt16
deriving Repr, DecidableEq

namespace Uri

/-- Schemes differ in how their hosts are read. -/
inductive SchemeKind where
  | file
  | special
  | other
deriving DecidableEq

/-- The kind of a scheme in lower case. -/
def schemeKind (scheme : String) : SchemeKind :=
  if scheme = "file" then .file
  -- The standard names the schemes whose hosts are domains.
  else if ["http", "https", "ws", "wss", "ftp"].contains scheme then .special
  else .other

/-- Drops controls and spaces around a text, and tabs and line breaks inside. -/
def clean (text : List Char) : List Char :=
  let outer (c : Char) : Bool := c.toNat ≤ 0x20
  (dropEndWhile outer (text.dropWhile outer)).filter fun c => c ≠ '\t' && c ≠ '\n' && c ≠ '\r'

/-- The rest of a scheme that begins as `found`, and what follows its colon. -/
def schemeFrom? (found : List Char) : List Char → Option (String × List Char)
  | [] => none
  | ':' :: rest => some (String.ofList found, rest)
  | c :: rest =>
    if c.isAlphanum || c == '+' || c == '-' || c == '.' then
      schemeFrom? (found ++ [c.toLower]) rest
    else none

/-- The scheme of a URL in lower case, and what follows its colon. -/
def scheme? (text : List Char) : Option (String × List Char) :=
  match text with
  | [] => none
  | c :: _ => if c.isAlpha then schemeFrom? [] text else none

/-- The authority ends where a path, query or fragment begins. -/
def endsAuthority (kind : SchemeKind) (c : Char) : Bool :=
  c == '/' || c == '?' || c == '#' || (c == '\\' && kind ≠ .other)

/-- Splits at the last at-sign of the authority, if it has one. -/
def splitUserInfo (kind : SchemeKind) (text : List Char) : Option (List Char) × List Char :=
  let authority := text.takeWhile fun c => !endsAuthority kind c
  let tail := text.drop authority.length
  let reversed := authority.reverse
  if authority.contains '@' then
    (some (((reversed.dropWhile (· ≠ '@')).drop 1).reverse),
      (reversed.takeWhile (· ≠ '@')).reverse ++ tail)
  else (none, text)

/-- Splits off the host, which a colon outside brackets ends as well. -/
def splitHost (kind : SchemeKind) : Bool → List Char → List Char × List Char
  | _, [] => ([], [])
  | bracketed, c :: rest =>
    if (c == ':' && !bracketed) || endsAuthority kind c then ([], c :: rest)
    else
      -- Within brackets a colon belongs to an address.
      let inside := if c == '[' then true else if c == ']' then false else bracketed
      let (host, after) := splitHost kind inside rest
      (c :: host, after)

/-- The IPv6 host between brackets of which the first is already gone. -/
def bracketedHost (text : List Char) : Except UriError String :=
  match text.reverse with
  -- The closing bracket must be the last character.
  | ']' :: reversed =>
    match Ipv6.parse? reversed.reverse with
    | some groups => .ok (Ipv6.text groups)
    | none => .error .invalidIpv6
  | _ => .error .invalidIpv6

/-- Characters that no host holds. -/
def isForbidden (c : Char) : Bool :=
  ['\x00', '\t', '\n', '\r', ' ', '#', '/', ':', '<', '>', '?', '@', '[', '\\', ']', '^', '|'].contains c

/-- A character of a host that is kept as it is, or percent-encoded when it is not printable ASCII. -/
def encodeHostChar (c : Char) : List Char :=
  if 0x20 ≤ c.toNat && c.toNat < 0x7F then [c]
  else (String.utf8EncodeChar c).flatMap fun byte => '%' :: (Hex.byte byte).map Char.toUpper

/-- The host of a scheme that the standard does not single out: text without a meaning of its own. -/
def opaqueHost (text : List Char) : Except UriError String :=
  match text with
  | '[' :: rest => bracketedHost rest
  | text =>
    if text.any isForbidden then .error .invalidDomainCharacter
    else .ok (String.ofList (text.flatMap encodeHostChar))

/-- The bytes of a text in which a percent sign and two digits stand for one byte. -/
def percentDecode : List Char → Bytes
  | '%' :: high :: low :: rest =>
    match Hex.digit? high, Hex.digit? low with
    | some h, some l => UInt8.ofNat (h * 16 + l) :: percentDecode rest
    -- A percent sign that announces nothing stands for itself.
    | _, _ => UInt8.ofNat '%'.toNat :: percentDecode (high :: low :: rest)
  | c :: rest => String.utf8EncodeChar c ++ percentDecode rest
  | [] => []

/-- The ASCII characters that no domain name holds. -/
def isForbiddenInDomain (c : Char) : Bool :=
  c.toNat < 0x20 || c.toNat == 0x7F || c == '%' || isForbidden c

/-- The value of one part of an IPv4 address: decimal, octal or hexadecimal by its first digits. -/
def ipv4Number? (text : List Char) : Option Nat :=
  match text with
  | [] => none
  -- Digits may be missing behind the mark, which makes a zero.
  | '0' :: 'x' :: digits =>
    if digits.all fun d => (Hex.digit? d).isSome then some (Ipv6.hexValue digits) else none
  | '0' :: d :: digits =>
    if (d :: digits).all fun d => '0' ≤ d && d ≤ '7' then
      some ((d :: digits).foldl (fun value d => value * 8 + (d.toNat - '0'.toNat)) 0)
    else none
  | text => Decimal.digits? text

/-- The last part of a domain name, not counting an empty one after a final dot. -/
def lastPart (domain : List Char) : List Char :=
  match (pieces (· == '.') domain).reverse with
  -- A dot at the end leaves an empty part behind it.
  | [] :: part :: _ => part
  | part :: _ => part
  | [] => []

/-- A domain whose last part is a number must be an IPv4 address. -/
def endsInNumber (domain : List Char) : Bool :=
  let part := lastPart domain
  (part ≠ [] && part.all Char.isDigit) || (ipv4Number? part).isSome

/-- Checks an IPv4 address of up to four parts, of which the last fills the remaining bytes. -/
def isIpv4 (domain : List Char) : Bool :=
  let all := pieces (· == '.') domain
  -- One dot at the end is allowed for.
  let parts := if all.getLast? = some [] then all.dropLast else all
  match parts.mapM ipv4Number? with
  | none => false
  | some numbers =>
    match numbers.reverse with
    | [] => false
    | last :: others =>
      numbers.length ≤ 4 && last < Nat.pow 256 (4 - others.length) && others.all (· < 256)

/-- The host of a scheme that the standard singles out: a domain name or an IP address. -/
def domainHost (text : List Char) : Except UriError String :=
  match text with
  | '[' :: rest => bracketedHost rest
  | text =>
    match Utf8.decode? (percentDecode text) with
    | none => .error .invalidDomainName
    | some decoded =>
      let domain := decoded.toList.map Char.toLower
      if domain.any isForbiddenInDomain then .error .invalidDomainName
      else if domain = [] then .error .emptyHost
      else if endsInNumber domain && !isIpv4 domain then .error .invalidIpv4
      else .ok (String.ofList domain)

/-- The digits of a port, up to the end of the authority. -/
def portFrom (value : Option Nat) : List Char → Except UriError (Option UInt16)
  | [] => .ok (value.map UInt16.ofNat)
  | c :: rest =>
    match Decimal.digit? c with
    | some digit =>
      let next := value.getD 0 * 10 + digit
      -- A port that is too large is refused as soon as it is.
      if next < 65536 then portFrom (some next) rest else .error .invalidPort
    -- The port ends with the authority.
    | none =>
      if c == '/' || c == '\\' || c == '?' || c == '#' then .ok (value.map UInt16.ofNat)
      else .error .invalidPort

/-- The port after a host, if a colon announces one. -/
def portAfter (text : List Char) : Except UriError (Option UInt16) :=
  match text with
  | ':' :: digits => portFrom none digits
  | _ => .ok none

/-- Reads host and port from behind the two slashes. -/
def authority (scheme : String) (kind : SchemeKind) (text : List Char) : Except UriError Uri :=
  let (userInfo, rest) := splitUserInfo kind text
  let nothingFollows := (rest.head?.map (endsAuthority kind)).getD false
  -- User info needs a host behind it.
  if userInfo = some [] ∧ nothingFollows then .error .emptyHost
  else
    let (hostText, after) := splitHost kind false rest
    if kind = .special ∧ hostText = [] then .error .emptyHost
    else
      match if kind = .special then domainHost hostText else opaqueHost hostText with
      | .error error => .error error
      | .ok host =>
        -- A port needs a host as well.
        if host = "" ∧ after.head? = some ':' then .error .emptyHost
        else
          match portAfter after with
          | .error error => .error error
          | .ok port =>
            -- A lone colon before the at-sign is neither a user nor a password.
            let hasUser := userInfo.getD [] ≠ [] && userInfo ≠ some [':']
            if host = "" ∧ hasUser then .error .emptyHost
            else .ok ⟨scheme, if host = "" then none else some host, port⟩

/-- Reads the host of a file URL. -/
def fileHost (scheme : String) (text : List Char) : Except UriError Uri :=
  let host := text.takeWhile fun c => !endsAuthority .file c
  -- A letter with a mark is the drive of a path.
  let isDrive :=
    match host with
    | [letter, mark] => letter.isAlpha && (mark == ':' || mark == '|')
    | _ => false
  if host.isEmpty || isDrive then .ok ⟨scheme, none, none⟩
  else
    match domainHost host with
    | .error error => .error error
    | .ok host => .ok ⟨scheme, if host = "localhost" then none else some host, none⟩

/-- Reads scheme, host and port of a URL. -/
def parse (text : String) : Except UriError Uri :=
  match scheme? (clean text.toList) with
  | none => .error .relativeWithoutBase
  | some (scheme, rest) =>
    match schemeKind scheme, rest with
    | .other, '/' :: '/' :: rest => authority scheme .other rest
    -- Without two slashes there is no authority.
    | .other, _ => .ok ⟨scheme, none, none⟩
    -- Any number of slashes will do, of either kind.
    | .special, rest => authority scheme .special (rest.dropWhile fun c => c == '/' || c == '\\')
    | .file, first :: second :: rest =>
      if (first == '/' || first == '\\') && (second == '/' || second == '\\') then
        fileHost scheme rest
      else .ok ⟨scheme, none, none⟩
    | .file, _ => .ok ⟨scheme, none, none⟩

end Uri

end RedisCluster
