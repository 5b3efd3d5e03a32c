import Demux.Frame.Basic
import Demux.StartLine.Field

namespace Demux

namespace Fields

def exampleHost : String := "example.com"

def requestBlock (v : Revision) (method target : String) : Fields :=
  let block := StartField.method.set v method ∅
  let block := StartField.target.set v target block
  let block := StartField.protocol.set v Protocol.http11.text block
  let block := StartField.scheme.set v "https" block
  if v.hasColonNames then StartField.host.set v exampleHost block else block

def replyBlock (v : Revision) (status : String) : Fields :=
  Protocol.http11.write v (StartField.status.set v status ∅)

def pushBlock (v : Revision) (status url : String) : Fields :=
  StartField.target.set v url (replyBlock v status)

end Fields

/-- A frame that opens a stream for a request. -/
def Frame.request (id : StreamId) (block : Fields) (last : Bool) : Frame :=
  .synStream id .zero 0 block last

end Demux
