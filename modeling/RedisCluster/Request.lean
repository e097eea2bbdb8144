import RedisCluster.Command

/-! The requests that a client sends, by the purpose they serve. -/

namespace RedisCluster

/-- A request: what a caller wants sent, or what the client asks for itself. -/
inductive Request where
  | command (frame : Frame)
  | asking
  | ping
  | layout
deriving Repr

namespace Request

/-- The frame that is sent. -/
def frame : Request → Frame
  | command frame => frame
  | asking => Command.asking.toFrame
  | ping => Command.ping.toFrame
  | layout => Command.clusterSlots.toFrame

end Request

end RedisCluster
