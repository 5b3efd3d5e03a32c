import Demux.Fields
import Demux.StreamId
import Demux.Text.Decimal

namespace Demux.Origin

def streamIdName : String := "X-SPDY-Stream-ID"

def associatedName : String := "X-SPDY-Associated-To-Stream-ID"

def priorityName : String := "X-SPDY-Priority"

def urlName : String := "X-SPDY-URL"

def readNumber? (bound : Nat) (name : String) (headers : Fields) : Option Nat :=
  (headers.get? name).bind (Text.number? bound)

def setStreamId (id : StreamId) (headers : Fields) : Fields :=
  headers.set streamIdName (toString id)

def streamId? (headers : Fields) : Option StreamId :=
  (readNumber? (0xffffffff) streamIdName headers).map StreamId.ofNat

def setAssociated (id : StreamId) (headers : Fields) : Fields :=
  headers.set associatedName (toString id)

/-- The stream that a push belongs to, zero where none is on record. -/
def associated (headers : Fields) : StreamId :=
  ((readNumber? (0xffffffff) associatedName headers).map StreamId.ofNat).getD .zero

def setPriority (priority : UInt8) (headers : Fields) : Fields :=
  headers.set priorityName (toString priority.toNat)

/-- Zero, the highest, where none is on record. -/
def priority (headers : Fields) : UInt8 :=
  ((readNumber? 255 priorityName headers).map UInt8.ofNat).getD 0

def setUrl (url : String) (headers : Fields) : Fields :=
  headers.set urlName url

def url? (headers : Fields) : Option String :=
  headers.get? urlName

end Demux.Origin
