import Demux.Message.Basic
import Demux.StartLine.Field

namespace Demux

open StartField (require)

/-- The start fields that a request takes out of its block. -/
def StartField.ofRequest : Revision → List StartField
  | .two => [method, target, protocol, scheme]
  | .three => [method, target, protocol, scheme, host]

def StartField.ofReply : List StartField :=
  [status, protocol]

def StartField.strip (v : Revision) (fields : List StartField) (block : Fields) : Fields :=
  fields.foldl (fun b field => field.erase v b) block

namespace Message

def targetOf (v : Revision) (block : Fields) : Except Fault String := do
  let target ← StartField.target.require v block
  if Text.isToken target.toList then return target else throw (.target target)

/-- The host that revision 3 has among the start fields, as the header that takes its place. -/
def hostOf (v : Revision) (block : Fields) : Except Fault Fields :=
  match v with
  | .two => return ∅
  | .three => do return ⟨[(HeaderName.host, ← StartField.host.require v block)]⟩

def ofRequestBlock (v : Revision) (block : Fields) : Except Fault Message := do
  let method ← Method.ofBlock v block
  let target ← targetOf v block
  let protocol ← Protocol.ofBlock v block
  let _ ← StartField.scheme.require v block
  let host ← hostOf v block
  let headers := host ++ StartField.strip v (StartField.ofRequest v) block
  let message : Message := ⟨.request method target, protocol, headers, .empty⟩
  return (message.setKeepAlive true).mapHeaders (·.erase HeaderName.transferEncoding)

def ofReplyBlock (v : Revision) (block : Fields) : Except Fault Message := do
  let status ← Status.ofBlock v block
  let protocol ← Protocol.ofBlock v block
  let headers := StartField.strip v StartField.ofReply block
  let message : Message := ⟨.reply status, protocol, headers, .empty⟩
  return (message.setKeepAlive true).mapHeaders fun h =>
    (h.erase HeaderName.transferEncoding).erase HeaderName.trailer

theorem ofRequestBlock_eq_ok {v : Revision} {block : Fields} {m : Message} :
    ofRequestBlock v block = .ok m ↔
      ∃ method target protocol scheme host, Method.ofBlock v block = .ok method ∧
        targetOf v block = .ok target ∧ Protocol.ofBlock v block = .ok protocol ∧
        StartField.scheme.require v block = .ok scheme ∧ hostOf v block = .ok host ∧
        m = ((⟨.request method target, protocol,
            host ++ StartField.strip v (StartField.ofRequest v) block, .empty⟩ :
          Message).setKeepAlive true).mapHeaders (·.erase HeaderName.transferEncoding) := by
  simp only [ofRequestBlock, bind, Except.bind]
  constructor
  · intro h
    split at h
    · cases h
    next method hmethod =>
    split at h
    · cases h
    next target htarget =>
    split at h
    · cases h
    next protocol hprotocol =>
    split at h
    · cases h
    next scheme hscheme =>
    split at h
    · cases h
    next host hhost =>
    cases h
    exact ⟨method, target, protocol, scheme, host, hmethod, htarget, hprotocol, hscheme, hhost, rfl⟩
  · rintro ⟨method, target, protocol, scheme, host, hmethod, htarget, hprotocol, hscheme, hhost,
      rfl⟩
    rw [hmethod, htarget, hprotocol, hscheme, hhost]
    rfl

theorem ofReplyBlock_eq_ok {v : Revision} {block : Fields} {m : Message} :
    ofReplyBlock v block = .ok m ↔
      ∃ status protocol, Status.ofBlock v block = .ok status ∧
        Protocol.ofBlock v block = .ok protocol ∧
        m = ((⟨.reply status, protocol, StartField.strip v StartField.ofReply block, .empty⟩ :
          Message).setKeepAlive true).mapHeaders fun h =>
            (h.erase HeaderName.transferEncoding).erase HeaderName.trailer := by
  simp only [ofReplyBlock, bind, Except.bind]
  constructor
  · intro h
    split at h
    · cases h
    next status hstatus =>
    split at h
    · cases h
    next protocol hprotocol =>
    cases h
    exact ⟨status, protocol, hstatus, hprotocol, rfl⟩
  · rintro ⟨status, protocol, hstatus, hprotocol, rfl⟩
    rw [hstatus, hprotocol]
    rfl

theorem body_of_ofRequestBlock {v : Revision} {block : Fields} {m : Message}
    (h : ofRequestBlock v block = .ok m) : m.body = .empty := by
  obtain ⟨method, target, protocol, scheme, host, -, -, -, -, -, rfl⟩ := ofRequestBlock_eq_ok.1 h
  simp

theorem body_of_ofReplyBlock {v : Revision} {block : Fields} {m : Message}
    (h : ofReplyBlock v block = .ok m) : m.body = .empty := by
  obtain ⟨status, protocol, -, -, rfl⟩ := ofReplyBlock_eq_ok.1 h
  simp

theorem isRequest_of_ofRequestBlock {v : Revision} {block : Fields} {m : Message}
    (h : ofRequestBlock v block = .ok m) : m.isRequest = true := by
  obtain ⟨method, target, protocol, scheme, host, -, -, -, -, -, rfl⟩ := ofRequestBlock_eq_ok.1 h
  simp [isRequest]

theorem isRequest_of_ofReplyBlock {v : Revision} {block : Fields} {m : Message}
    (h : ofReplyBlock v block = .ok m) : m.isRequest = false := by
  obtain ⟨status, protocol, -, -, rfl⟩ := ofReplyBlock_eq_ok.1 h
  simp [isRequest]

end Message

end Demux
