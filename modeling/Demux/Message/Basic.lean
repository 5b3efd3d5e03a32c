import Demux.Bytes
import Demux.Fields
import Demux.StartLine.Method
import Demux.StartLine.Protocol
import Demux.StartLine.Status

namespace Demux

inductive StartLine where
  | request (method : Method) (target : String)
  | reply (status : Status)
  deriving DecidableEq

structure Message where
  start : StartLine
  protocol : Protocol
  headers : Fields
  body : ByteArray
  deriving DecidableEq

namespace HeaderName

def connection : String := "Connection"

def contentLength : String := "Content-Length"

def host : String := "Host"

def trailer : String := "Trailer"

def transferEncoding : String := "Transfer-Encoding"

end HeaderName

namespace Message

def isRequest (m : Message) : Bool :=
  match m.start with
  | .request .. => true
  | .reply _ => false

def isReply (m : Message) : Bool :=
  !m.isRequest

def mapHeaders (f : Fields → Fields) (m : Message) : Message :=
  { m with headers := f m.headers }

def append (m : Message) (bytes : ByteArray) : Message :=
  { m with body := m.body ++ bytes }

/-- A wish that the protocol grants by default needs no header. -/
def setKeepAlive (on : Bool) (m : Message) : Message :=
  if on = m.protocol.persistsByDefault then m.mapHeaders (·.erase HeaderName.connection)
  else m.mapHeaders (·.set HeaderName.connection (if on then "keep-alive" else "close"))

/-- Whether the connection outlives the message, by its first `Connection` header or by default. -/
def keepsAlive (m : Message) : Bool :=
  match m.headers.get? HeaderName.connection with
  | some value =>
    if Text.sameName value "close" then false
    else if Text.sameName value "keep-alive" then true
    else m.protocol.persistsByDefault
  | none => m.protocol.persistsByDefault

def setContentLength (n : Nat) (m : Message) : Message :=
  m.mapHeaders (·.set HeaderName.contentLength (toString n))

/-- The length that the first `Content-Length` header gives, if it is a number of 64 bits. -/
def contentLength? (m : Message) : Option Nat :=
  (m.headers.get? HeaderName.contentLength).bind (Text.number? 0xffffffffffffffff)

def setHost (host : String) (m : Message) : Message :=
  m.mapHeaders (·.set HeaderName.host host)

@[simp] theorem start_mapHeaders (f : Fields → Fields) (m : Message) :
    (m.mapHeaders f).start = m.start := rfl

@[simp] theorem protocol_mapHeaders (f : Fields → Fields) (m : Message) :
    (m.mapHeaders f).protocol = m.protocol := rfl

@[simp] theorem headers_mapHeaders (f : Fields → Fields) (m : Message) :
    (m.mapHeaders f).headers = f m.headers := rfl

@[simp] theorem body_mapHeaders (f : Fields → Fields) (m : Message) :
    (m.mapHeaders f).body = m.body := rfl

@[simp] theorem start_append (m : Message) (bytes : ByteArray) :
    (m.append bytes).start = m.start := rfl

@[simp] theorem protocol_append (m : Message) (bytes : ByteArray) :
    (m.append bytes).protocol = m.protocol := rfl

@[simp] theorem headers_append (m : Message) (bytes : ByteArray) :
    (m.append bytes).headers = m.headers := rfl

@[simp] theorem body_append (m : Message) (bytes : ByteArray) :
    (m.append bytes).body = m.body ++ bytes := rfl

theorem append_append (m : Message) (a b : ByteArray) :
    (m.append a).append b = m.append (a ++ b) := by
  simp [append, ByteArray.append_assoc]

@[simp] theorem start_setKeepAlive (on : Bool) (m : Message) :
    (m.setKeepAlive on).start = m.start := by
  unfold setKeepAlive
  split <;> rfl

@[simp] theorem protocol_setKeepAlive (on : Bool) (m : Message) :
    (m.setKeepAlive on).protocol = m.protocol := by
  unfold setKeepAlive
  split <;> rfl

@[simp] theorem body_setKeepAlive (on : Bool) (m : Message) :
    (m.setKeepAlive on).body = m.body := by
  unfold setKeepAlive
  split <;> rfl

theorem headers_setKeepAlive (on : Bool) (m : Message) :
    (m.setKeepAlive on).headers =
      if on = m.protocol.persistsByDefault then m.headers.erase HeaderName.connection
      else m.headers.set HeaderName.connection (if on then "keep-alive" else "close") := by
  unfold setKeepAlive
  split <;> rfl

end Message

end Demux
