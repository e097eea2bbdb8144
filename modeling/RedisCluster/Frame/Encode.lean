import RedisCluster.Frame

/-! The wire form of frames. -/

namespace RedisCluster

/-- The two bytes that end every line. -/
def crlf : Bytes :=
  [13, 10]

namespace Frame

/-- The ASCII bytes of a whole number. -/
def numeral (n : Int) : Bytes :=
  Utf8.encode (toString n)

/-- A line: its marker, its content and the line end. -/
def line (marker : Char) (content : Bytes) : Bytes :=
  UInt8.ofNat marker.toNat :: (content ++ crlf)

mutual

/-- The bytes of a frame. -/
def encode : Frame → Bytes
  | simple text => line '+' (Utf8.encode text)
  | error text => line '-' (Utf8.encode text)
  | integer value => line ':' (numeral value.toInt)
  | bulk none => line '$' (numeral (-1))
  | bulk (some payload) => line '$' (numeral payload.length) ++ (payload ++ crlf)
  | array items => line '*' (numeral items.length) ++ encodeAll items
  | null => line '*' (numeral (-1))

/-- The bytes of frames one after the other. -/
def encodeAll : List Frame → Bytes
  | [] => []
  | item :: rest => encode item ++ encodeAll rest

end

end Frame

/-- Collects encoded frames until they are taken. -/
structure Encoder where
  buffer : Bytes := []

namespace Encoder

/-- Appends one frame. -/
def encode (encoder : Encoder) (frame : Frame) : Encoder :=
  ⟨encoder.buffer ++ frame.encode⟩

/-- Hands out everything collected and starts over. -/
def take (encoder : Encoder) : Bytes × Encoder :=
  (encoder.buffer, ⟨[]⟩)

end Encoder

end RedisCluster
