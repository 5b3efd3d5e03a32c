import Demux.Bytes
import Demux.Fields
import Demux.Frame.ResetCode
import Demux.StreamId

namespace Demux

inductive Frame where
  | synStream (id associated : StreamId) (priority : UInt8) (block : Fields) (last : Bool)
  | synReply (id : StreamId) (block : Fields) (last : Bool)
  | headers (id : StreamId) (block : Fields) (last : Bool)
  | data (id : StreamId) (payload : ByteArray) (last : Bool)
  | rstStream (id : StreamId) (code : ResetCode)
  | settings (clear : Bool) (entries : List (UInt32 × UInt32))
  | ping (token : UInt32)
  | goAway (lastGood : StreamId) (status : UInt32)
  | windowUpdate (id : StreamId) (delta : UInt32)
  deriving DecidableEq

namespace Frame

/-- The stream that a frame is about, if it is not about the session as a whole. -/
def streamId? : Frame → Option StreamId
  | synStream id .. | synReply id .. | headers id .. | data id .. | rstStream id _
  | windowUpdate id _ => some id
  | settings .. | ping _ | goAway .. => none

/-- Whether the frame is the last that its sender has for the stream. -/
def isLast : Frame → Bool
  | synStream _ _ _ _ last | synReply _ _ last | headers _ _ last | data _ _ last => last
  | _ => false

def kind : Frame → String
  | synStream .. => "SYN_STREAM"
  | synReply .. => "SYN_REPLY"
  | headers .. => "HEADERS"
  | data .. => "DATA"
  | rstStream .. => "RST_STREAM"
  | settings .. => "SETTINGS"
  | ping _ => "PING"
  | goAway .. => "GOAWAY"
  | windowUpdate .. => "WINDOW_UPDATE"

end Frame

end Demux
