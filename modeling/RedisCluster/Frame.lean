import RedisCluster.Text.Outline
import RedisCluster.Text.Quoted

/-! Frames of the serialization protocol, version 2. -/

namespace RedisCluster

/-- One value on the wire. The null bulk string and the null array are different frames. -/
inductive Frame where
  | simple (text : String)
  | error (text : String)
  | integer (value : Int64)
  | bulk (payload : Option Bytes)
  | array (items : List Frame)
  | null
deriving Repr, Inhabited

namespace Frame

mutual

/-- Two frames are the same piece by piece. -/
def same : Frame → Frame → Bool
  | simple left, simple right | error left, error right => left == right
  | integer left, integer right => left == right
  | bulk left, bulk right => left == right
  | array left, array right => sameAll left right
  | null, null => true
  | _, _ => false

/-- Two lists of frames are the same frame by frame. -/
def sameAll : List Frame → List Frame → Bool
  | [], [] => true
  | left :: lefts, right :: rights => same left right && sameAll lefts rights
  | _, _ => false

end

mutual

/-- Only equal frames are the same. -/
theorem same_iff (left right : Frame) : same left right = true ↔ left = right := by
  cases left with
  | array items =>
    cases right with
    | array others => simp [same, sameAll_iff items others]
    | _ => simp [same]
  | _ => cases right <;> simp [same]

/-- Only equal lists of frames are the same. -/
theorem sameAll_iff (lefts rights : List Frame) :
    sameAll lefts rights = true ↔ lefts = rights := by
  cases lefts with
  | nil => cases rights <;> simp [sameAll]
  | cons left lefts =>
    cases rights with
    | nil => simp [sameAll]
    | cons right rights => simp [sameAll, same_iff left right, sameAll_iff lefts rights]

end

instance : DecidableEq Frame :=
  fun left right => decidable_of_iff _ (same_iff left right)

/-- A bulk string that holds a text. -/
def ofText (text : String) : Frame :=
  bulk (some (Utf8.encode text))

/-- The reply that acknowledges a request. -/
def ok : Frame :=
  simple "OK"

/-- The acknowledging reply and no other. -/
def isOk : Frame → Bool
  | simple text => text == "OK"
  | _ => false

/-- Either of the two nulls. -/
def isNull : Frame → Bool
  | bulk none => true
  | null => true
  | _ => false

/-- The text of a simple string or of a bulk string. -/
def asText : Frame → Option String
  | simple text => some text
  | bulk (some payload) => some (Utf8.lossy payload)
  | _ => none

/-- The message of an error reply. -/
def asError : Frame → Option String
  | error text => some text
  | _ => none

mutual

/-- A frame as messages show it. -/
def outline : Frame → String
  | simple text => Outline.tagged "Simple" (Quoted.text text)
  | error text => Outline.tagged "Error" (Quoted.text text)
  | integer value => Outline.tagged "Integer" (toString value.toInt)
  | bulk payload => Outline.tagged "Bulk" (Outline.option (payload.map Quoted.bytes))
  | array items => Outline.tagged "Array" (Outline.list (outlineAll items))
  | null => "Null"

/-- The frames of an array as messages show them. -/
def outlineAll : List Frame → List String
  | [] => []
  | item :: rest => outline item :: outlineAll rest

end

end Frame

end RedisCluster
