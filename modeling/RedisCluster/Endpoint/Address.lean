import RedisCluster.ClientError
import RedisCluster.Endpoint
import RedisCluster.Endpoint.Uri

/-! Bootstrap addresses, as a user writes them. -/

namespace RedisCluster

/-- The port of an address that names none. -/
def defaultPort : UInt16 :=
  6379

/-- The characters of a text contain those of another in a row. -/
def hasInfix (part : List Char) : List Char → Bool
  | [] => part.isEmpty
  | c :: rest => part.isPrefixOf (c :: rest) || hasInfix part rest

namespace Endpoint

/-- The endpoint that a trimmed address names. -/
def ofTrimmedAddress (address : String) : Except ClientError Endpoint :=
  let url := if hasInfix "://".toList address.toList then address else "redis://" ++ address
  match Uri.parse url with
  | .error error =>
    .error (.invalidArgument
      ("invalid node address " ++ Quoted.text address ++ ": " ++ error.message))
  | .ok uri =>
    if uri.scheme ≠ "redis" then
      .error (.invalidArgument ("unsupported scheme " ++ Quoted.text uri.scheme ++ " in " ++
        Quoted.text address ++ ", expected redis://"))
    else
      match uri.host with
      | none => .error (.invalidArgument ("missing host in " ++ Quoted.text address))
      | some host => .ok ⟨host, uri.port.getD defaultPort⟩

/-- The endpoint that an address names: a host with an optional port, or a URL of that scheme. -/
def ofAddress (address : String) : Except ClientError Endpoint :=
  let trimmed := String.ofList (trimBlanks address.toList)
  if trimmed = "" then .error (.invalidArgument "empty node address")
  else ofTrimmedAddress trimmed

end Endpoint

end RedisCluster
