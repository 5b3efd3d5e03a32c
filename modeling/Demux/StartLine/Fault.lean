import Demux.Text.Quoted

namespace Demux

/-- A name that has no value, or a value as it stood in the block. -/
inductive Fault where
  | missing (name : String)
  | method (value : String)
  | target (value : String)
  | protocol (value : String)
  | status (value : String)
  deriving DecidableEq

def Fault.message : Fault → String
  | missing name => "missing pseudo-header " ++ name
  | method value => "invalid method: " ++ Text.quote value
  | target value => "invalid request target: " ++ Text.quote value
  | protocol value => "invalid HTTP version: " ++ Text.quote value
  | status value => "invalid status: " ++ Text.quote value

end Demux
