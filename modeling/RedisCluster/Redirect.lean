import RedisCluster.ClientError
import RedisCluster.Endpoint
import RedisCluster.Slot

/-! What the answer to a request means for its route. -/

namespace RedisCluster

/-- The outcome of one request, as routing sees it. -/
inductive Signal where
  | reply (frame : Frame)
  | moved (slot : Nat) (target : Endpoint)
  | ask (slot : Nat) (target : Endpoint)
  | connectionFailure (error : ClientError)
deriving Repr, DecidableEq

namespace Redirect

/-- What follows `front` in a text that begins with it. -/
def after? (front : String) (text : String) : Option (List Char) :=
  if front.toList.isPrefixOf text.toList then some (text.toList.drop front.toList.length) else none

/-- A text begins with another. -/
def startsWith (front text : String) : Bool :=
  front.toList.isPrefixOf text.toList

/-- The slot and the target that a redirect names: a slot below the slot count and an address. -/
def target? (arguments : List Char) (source : Endpoint) : Option (Nat × Endpoint) :=
  match words arguments with
  -- There are two words, and nothing else counts as a redirect.
  | [slot, address] =>
    match Decimal.uint16? slot with
    | none => none
    | some number =>
      -- Slots beyond the last one are not known.
      if number.toNat < slotCount then
        (Endpoint.ofRedirect? (String.ofList address) source).map fun target =>
          (number.toNat, target)
      else none
  | _ => none

/-- The meaning of an error reply; a redirect that cannot be read is an ordinary server error. -/
def ofErrorReply (message : String) (source : Endpoint) : Except ClientError Signal :=
  -- The word in front decides what the rest is read as.
  match after? "MOVED " message, after? "ASK " message with
  | some arguments, _ =>
    match target? arguments source with
    | some (slot, target) => .ok (.moved slot target)
    | none => .error (.server message)
  | none, some arguments =>
    match target? arguments source with
    | some (slot, target) => .ok (.ask slot target)
    | none => .error (.server message)
  | none, none =>
    if startsWith "CLUSTERDOWN" message then .error (.clusterDown message)
    else if ["NOAUTH", "WRONGPASS", "NOPERM"].any (startsWith · message) then .error (.auth message)
    else .error (.server message)

/-- The meaning of the answer that a request to `source` got. -/
def classify (answer : Except ClientError Frame) (source : Endpoint) : Except ClientError Signal :=
  match answer with
  | .ok (.error message) => ofErrorReply message source
  | .ok frame => .ok (.reply frame)
  -- A lost connection is an outcome, and any other error is the end.
  | .error error => if error.isConnectivity then .ok (.connectionFailure error) else .error error

end Redirect

end RedisCluster
