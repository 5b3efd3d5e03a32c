namespace Demux

/-- Any code but zero; those without a name are passed on as they are. -/
structure ResetCode where
  code : UInt32
  code_ne_zero : code ≠ 0 := by decide
  deriving DecidableEq

namespace ResetCode

def ofCode? (code : UInt32) : Option ResetCode :=
  if h : code ≠ 0 then some ⟨code, h⟩ else none

def protocolError : ResetCode := ⟨1, by decide⟩

def invalidStream : ResetCode := ⟨2, by decide⟩

def refusedStream : ResetCode := ⟨3, by decide⟩

def name? (r : ResetCode) : Option String :=
  match r.code.toNat with
  | 1 => some "PROTOCOL_ERROR"
  | 2 => some "INVALID_STREAM"
  | 3 => some "REFUSED_STREAM"
  | 4 => some "UNSUPPORTED_VERSION"
  | 5 => some "CANCEL"
  | 6 => some "INTERNAL_ERROR"
  | 7 => some "FLOW_CONTROL_ERROR"
  | 8 => some "STREAM_IN_USE"
  | 9 => some "STREAM_ALREADY_CLOSED"
  | 10 => some "INVALID_CREDENTIALS"
  | 11 => some "FRAME_TOO_LARGE"
  | _ => none

instance : ToString ResetCode :=
  ⟨fun r => r.name?.getD ("UNKNOWN (" ++ toString r.code.toNat ++ ")")⟩

end ResetCode

end Demux
