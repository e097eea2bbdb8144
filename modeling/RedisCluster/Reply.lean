import RedisCluster.ClientError

/-! What callers read out of reply frames. -/

namespace RedisCluster.Reply

/-- The error for a reply of the wrong shape; an error reply speaks for itself. -/
def unexpected (wanted : String) : Frame → ClientError
  | .error message => .server message
  | got => .protocol ("expected " ++ wanted ++ " reply, got " ++ got.outline)

/-- The text of a status reply. -/
def status : Frame → Except ClientError String
  | .simple text => .ok text
  | got => .error (unexpected "status" got)

/-- The bytes of a bulk string, which either null lacks. -/
def bytes : Frame → Except ClientError (Option Bytes)
  | .bulk payload => .ok payload
  | .null => .ok none
  | got => .error (unexpected "bulk string" got)

/-- The value of an integer reply. -/
def integer : Frame → Except ClientError Int64
  | .integer value => .ok value
  | got => .error (unexpected "integer" got)

/-- The bytes of each item of an array, up to the first that has none. -/
def bytesList : Frame → Except ClientError (List (Option Bytes))
  | .array items => items.mapM bytes
  | got => .error (unexpected "array" got)

end RedisCluster.Reply
