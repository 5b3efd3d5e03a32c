import Demux.Fields
import Demux.Revision
import Demux.StartLine.Method
import Demux.StartLine.Protocol
import Demux.StartLine.Status

namespace Demux

inductive StartField where
  | method
  | target
  | scheme
  | protocol
  | status
  | host
  deriving DecidableEq

namespace StartField

def name : Revision → StartField → String
  | .two, method => "method"
  | .two, target => "url"
  | .two, scheme => "scheme"
  | .two, protocol => "version"
  | .two, status => "status"
  | .two, host => "host"
  | .three, method => ":method"
  | .three, target => ":path"
  | .three, scheme => ":scheme"
  | .three, protocol => ":version"
  | .three, status => ":status"
  | .three, host => ":host"

def get? (v : Revision) (field : StartField) (block : Fields) : Option String :=
  block.get? (field.name v)

def require (v : Revision) (field : StartField) (block : Fields) : Except Fault String :=
  match field.get? v block with
  | some value => .ok value
  | none => .error (.missing (field.name v))

def set (v : Revision) (field : StartField) (value : String) (block : Fields) : Fields :=
  block.set (field.name v) value

def erase (v : Revision) (field : StartField) (block : Fields) : Fields :=
  block.erase (field.name v)

theorem require_set_bind {α : Type} (v : Revision) (field : StartField) (value : String)
    (block : Fields) (read : String → Except Fault α) :
    (field.require v (field.set v value block) >>= read) = read value := by
  rw [require, get?, set, Fields.get?_set]
  rfl

end StartField

def Method.ofBlock (v : Revision) (block : Fields) : Except Fault Method := do
  Method.parse (← StartField.method.require v block)

def Protocol.ofBlock (v : Revision) (block : Fields) : Except Fault Protocol := do
  Protocol.parse (← StartField.protocol.require v block)

def Status.ofBlock (v : Revision) (block : Fields) : Except Fault Status := do
  Status.parse (← StartField.status.require v block)

def Protocol.write (v : Revision) (p : Protocol) (block : Fields) : Fields :=
  StartField.protocol.set v p.text block

def Status.write (v : Revision) (s : Status) (block : Fields) : Fields :=
  StartField.status.set v s.text block

theorem Protocol.ofBlock_write (v : Revision) (p : Protocol) (block : Fields) :
    ofBlock v (p.write v block) = parse p.text :=
  StartField.require_set_bind _ _ _ _ parse

theorem Status.ofBlock_write (v : Revision) (s : Status) (block : Fields) :
    ofBlock v (s.write v block) = parse s.text :=
  StartField.require_set_bind _ _ _ _ parse

end Demux
