import Demux.Proofs.Message.Translation
import Demux.Proofs.StartLine.Protocol
import Demux.Proofs.StartLine.Status

namespace Demux.Message

open Text (isBlank isControl isToken trim)

/-- The start line of a message as the plain protocol writes it, without its end of line. -/
def startLine (m : Message) : List Char :=
  match m.start with
  | .request method target =>
    method.text.toList ++ ' ' :: (target.toList ++ ' ' :: m.protocol.text.toList)
  | .reply status => m.protocol.text.toList ++ ' ' :: status.text.toList

variable {v : Revision} {block : Fields} {m : Message}

theorem tokens_of_ofRequestBlock (h : ofRequestBlock v block = .ok m) :
    ∃ method target, m.start = .request method target ∧ isToken method.text.toList = true ∧
      isToken target.toList = true ∧ isToken m.protocol.text.toList = true := by
  obtain ⟨method, target, protocol, -, -, hmethod, htarget, hprotocol, -, -, rfl⟩ :=
    ofRequestBlock_eq_ok.1 h
  obtain ⟨_, -, hmethod⟩ := StartField.require_bind_eq_ok.1 hmethod
  obtain ⟨_, -, hprotocol⟩ := StartField.require_bind_eq_ok.1 hprotocol
  refine ⟨method, target, start_setKeepAlive _ _, Method.isToken_text hmethod,
    (targetOf_eq_ok.1 htarget).2, ?_⟩
  rw [protocol_mapHeaders, protocol_setKeepAlive]
  exact Protocol.isToken_text hprotocol

theorem tokens_of_ofReplyBlock (h : ofReplyBlock v block = .ok m) :
    ∃ status value, m.start = .reply status ∧ StartField.status.get? v block = some value ∧
      Status.parse value = .ok status ∧ isToken m.protocol.text.toList = true := by
  obtain ⟨status, protocol, hstatus, hprotocol, rfl⟩ := ofReplyBlock_eq_ok.1 h
  obtain ⟨value, hvalue, hstatus⟩ := StartField.require_bind_eq_ok.1 hstatus
  obtain ⟨_, -, hprotocol⟩ := StartField.require_bind_eq_ok.1 hprotocol
  refine ⟨status, value, start_setKeepAlive _ _, hvalue, hstatus, ?_⟩
  rw [protocol_mapHeaders, protocol_setKeepAlive]
  exact Protocol.isToken_text hprotocol

/-- Start lines are made of tokens, but for what comes after the code of a reply. -/
theorem startLine_of_translated
    (h : ofRequestBlock v block = .ok m ∨ ofReplyBlock v block = .ok m) :
    isToken m.protocol.text.toList = true ∧
      match m.start with
      | .request method target =>
        isToken method.text.toList = true ∧ isToken target.toList = true ∧
          m.startLine.splitOnP isBlank =
            [method.text.toList, target.toList, m.protocol.text.toList] ∧
          m.startLine.filter isControl = []
      | .reply status =>
        ∃ value, StartField.status.get? v block = some value ∧
          m.startLine.splitOnP isBlank = m.protocol.text.toList :: Nat.toDigits 10 status.code ::
            status.reason.toList.splitOnP isBlank ∧
          m.startLine.filter isControl = status.text.toList.filter isControl ∧
          status.text.toList.filter isControl = (trim value.toList).filter isControl := by
  obtain h | h := h
  · obtain ⟨method, target, hstart, hmethod, htarget, hprotocol⟩ := tokens_of_ofRequestBlock h
    rw [startLine, hstart]
    refine ⟨hprotocol, hmethod, htarget, ?_, ?_⟩
    · rw [Text.splitOnP_token_cons hmethod, Text.splitOnP_token_cons htarget,
        Text.splitOnP_token hprotocol]
    · rw [Text.filter_isControl_token_cons hmethod, Text.filter_isControl_token_cons htarget,
        Text.filter_isControl_token hprotocol]
  · obtain ⟨status, value, hstart, hvalue, hparse, hprotocol⟩ := tokens_of_ofReplyBlock h
    rw [startLine, hstart]
    refine ⟨hprotocol, value, hvalue, ?_, ?_, Status.filter_isControl_text hparse⟩
    · rw [Text.splitOnP_token_cons hprotocol, Status.toList_text,
        Text.splitOnP_token_cons (Text.isToken_toDigits _)]
    · exact Text.filter_isControl_token_cons hprotocol _

theorem startLine_of_translated_reply :
    let block : Fields :=
      ⟨[(":version", " http/1.0"), (":Status", "404 Gone \x07Fishing\n"), (":status", "")]⟩
    let m : Message := ⟨.reply ⟨404, "Gone \x07Fishing"⟩, .http10,
      ⟨[("Connection", "keep-alive")]⟩, .empty⟩
    (ofRequestBlock .three block = .ok m ∨ ofReplyBlock .three block = .ok m) ∧
      m.startLine.splitOnP isBlank =
        ["HTTP/1.0", "404", "Gone", "\x07Fishing"].map String.toList ∧
      m.startLine.filter isControl = ['\x07'] := by
  intro block m
  have h : ofReplyBlock .three block = .ok m := rfl
  obtain ⟨-, value, hvalue, hsplit, hline, htext⟩ := startLine_of_translated (.inr h)
  have hcontrols : (trim value.toList).filter isControl = ['\x07'] := by
    cases hvalue
    rfl
  exact ⟨.inr h, hsplit.trans (by decide +kernel), (hline.trans htext).trans hcontrols⟩

theorem line_break_in_status :
    let block : Fields := ⟨[(":status", "200 OK\r\nSet-Cookie: a=b"), (":version", "HTTP/1.1")]⟩
    let m : Message := ⟨.reply ⟨200, "OK\r\nSet-Cookie: a=b"⟩, .http11, ∅, .empty⟩
    ofReplyBlock .three block = .ok m ∧
      m.startLine = "HTTP/1.1 200 OK\r\nSet-Cookie: a=b".toList ∧
      m.startLine.filter isControl = ['\r', '\n'] := by
  exact ⟨rfl, rfl, rfl⟩

end Demux.Message
