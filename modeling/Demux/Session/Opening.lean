import Demux.Message.Opening
import Demux.Message.Origin
import Demux.Session.Event

namespace Demux.Opening

def request (v : Revision) (id : StreamId) (block : Fields) : Except Event Message :=
  match Message.ofRequestBlock v block with
  | .ok m => .ok (m.mapHeaders (Origin.setStreamId id))
  | .error fault => .error (.badRequest id fault)

/-- A reply that ends with the frame that opens it has no body. -/
def ended (last : Bool) (m : Message) : Message :=
  if last then m.setContentLength 0 else m

def reply (v : Revision) (id : StreamId) (block : Fields) (last : Bool) : Except Event Message :=
  match Message.ofReplyBlock v block with
  | .ok m => .ok (ended last (m.mapHeaders (Origin.setStreamId id)))
  | .error fault => .error (.badReply id fault)

/-- A push goes on record with its stream, the stream it belongs to, its priority and its url. -/
def pushHeaders (id associated : StreamId) (priority : UInt8) (url : String) (headers : Fields) :
    Fields :=
  let headers := Origin.setStreamId id headers
  let headers := Origin.setAssociated associated headers
  let headers := Origin.setPriority priority headers
  Origin.setUrl url headers

def push (v : Revision) (id associated : StreamId) (priority : UInt8) (block : Fields)
    (last : Bool) : Except Event Message :=
  match StartField.target.get? v block with
  | none => .error (.pushWithoutUrl id)
  | some url =>
    match Message.ofReplyBlock v block with
    | .ok m => .ok (ended last (m.mapHeaders (pushHeaders id associated priority url)))
    | .error fault => .error (.badPush id fault)

/-- A push that names no stream it belongs to is reset, and taken all the same. -/
def pushWarnings (id associated : StreamId) : List Event :=
  if associated.isZero then [.pushWithoutStream id] else []

end Demux.Opening
