import RedisCluster.Duration
import RedisCluster.Frame.Decode

/-! Everything that can go wrong for a caller of the client. -/

namespace RedisCluster

/-- Why a call failed. -/
inductive ClientError where
  | io (message : String)
  | timeout (operation : String) (after : Duration)
  | poolExhausted (node : String) (waited : Duration)
  | poolClosed (node : String)
  | protocol (message : String)
  | decode (error : DecodeError)
  | server (message : String)
  | auth (message : String)
  | invalidArgument (message : String)
  | clusterDown (message : String)
  | crossSlot (first second : Nat)
  | clientClosed
  | moved (slot : Nat) (address : String)
  | ask (slot : Nat) (address : String)
  | tooManyRedirections (attempts : Nat) (cause : ClientError)
  | clusterUnavailable (attempts : Nat) (cause : ClientError)
  | noReachableNode (cause : Option ClientError)
deriving Repr, Inhabited

namespace ClientError

/-- Two errors are the same piece by piece, their causes included. -/
def same : ClientError → ClientError → Bool
  | io left, io right | poolClosed left, poolClosed right | protocol left, protocol right
  | server left, server right | auth left, auth right | clusterDown left, clusterDown right
  | invalidArgument left, invalidArgument right => left == right
  | timeout left after, timeout right later
  | poolExhausted left after, poolExhausted right later => left == right && after == later
  | decode left, decode right => left == right
  | crossSlot first second, crossSlot left right => first == left && second == right
  | clientClosed, clientClosed => true
  | moved slot left, moved other right | ask slot left, ask other right =>
    slot == other && left == right
  | tooManyRedirections attempts left, tooManyRedirections others right
  | clusterUnavailable attempts left, clusterUnavailable others right =>
    attempts == others && same left right
  | noReachableNode none, noReachableNode none => true
  | noReachableNode (some left), noReachableNode (some right) => same left right
  | _, _ => false

/-- Every error is the same as itself. -/
theorem same_self (error : ClientError) : same error error = true := by
  match error with
  | tooManyRedirections _ cause | clusterUnavailable _ cause | noReachableNode (some cause) =>
    simp [same, same_self cause]
  | noReachableNode none | clientClosed => rfl
  | io _ | timeout .. | poolExhausted .. | poolClosed _ | protocol _ | decode _ | server _ | auth _
  | invalidArgument _ | clusterDown _ | crossSlot .. | moved .. | ask .. => simp [same]

/-- Only equal errors are the same. -/
theorem same_iff (left right : ClientError) : same left right = true ↔ left = right := by
  constructor
  · intro equal
    fun_induction same left right <;> simp_all
  · rintro rfl
    exact same_self left

instance : DecidableEq ClientError :=
  fun left right => decidable_of_iff _ (same_iff left right)

/-- The text of an error; a cause is not part of it. -/
def message : ClientError → String
  | io message => "IO error: " ++ message
  | timeout operation after => operation ++ " timed out after " ++ after.text
  | poolExhausted node waited =>
    "connection pool for " ++ node ++ " exhausted after waiting " ++ waited.text
  | poolClosed node => "connection pool for " ++ node ++ " is closed"
  | protocol message => "protocol error: " ++ message
  | decode error => "decode error: " ++ error.message
  | server message => "server error: " ++ message
  | auth message => "authentication failed: " ++ message
  | invalidArgument message => "invalid argument: " ++ message
  | clusterDown message => "cluster is down: " ++ message
  | crossSlot first second =>
    "CROSSSLOT keys in request map to different slots (" ++ toString first ++ " and " ++
      toString second ++ ")"
  | clientClosed => "client is closed"
  | moved slot address => "MOVED to slot " ++ toString slot ++ " at " ++ address
  | ask slot address => "ASK to slot " ++ toString slot ++ " at " ++ address
  | tooManyRedirections attempts _ =>
    "too many cluster redirections (" ++ toString attempts ++ " attempts)"
  | clusterUnavailable attempts _ =>
    "cluster unavailable after " ++ toString attempts ++ " attempts"
  | noReachableNode _ => "no reachable node in cluster"

/-- The error that led to this one, where there is one. -/
def cause? : ClientError → Option ClientError
  | tooManyRedirections _ cause => some cause
  | clusterUnavailable _ cause => some cause
  | noReachableNode cause => cause
  | _ => none

/-- The texts of the errors behind an error, nearest first. -/
def chain : ClientError → List String
  | io message => [message]
  | decode error => [error.message]
  | tooManyRedirections _ cause => cause.message :: cause.chain
  | clusterUnavailable _ cause => cause.message :: cause.chain
  | noReachableNode (some cause) => cause.message :: cause.chain
  | _ => []

/-- The connection, not the request, is to blame. -/
def isConnectivity : ClientError → Bool
  | io _ | timeout .. | poolExhausted .. | poolClosed _ => true
  | _ => false

/-- Redirects used up the attempts. -/
def isRedirectLoop : ClientError → Bool
  | tooManyRedirections .. => true
  | _ => false

/-- The same call may succeed later. -/
def isRetryable : ClientError → Bool
  | clusterDown _ | clusterUnavailable .. | noReachableNode _ | tooManyRedirections .. => true
  | error => error.isConnectivity

end ClientError

instance {α : Type} [DecidableEq α] : DecidableEq (Except ClientError α)
  | .ok left, .ok right => decidable_of_iff (left = right) (by simp)
  | .error left, .error right => decidable_of_iff (left = right) (by simp)
  | .ok _, .error _ | .error _, .ok _ => isFalse nofun

end RedisCluster
