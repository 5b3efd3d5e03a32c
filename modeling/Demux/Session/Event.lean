import Demux.Frame.Basic
import Demux.Message.Basic
import Demux.StartLine.Field
import Demux.Store.Basic

namespace Demux

/-- A body that would have outgrown the limit. -/
structure Overflow where
  id : StreamId
  attempted : Nat
  limit : Nat
  deriving DecidableEq

def Overflow.message (o : Overflow) : String :=
  "HTTP content length exceeded " ++ toString o.limit ++ " bytes."

inductive Inbound where
  | message (m : Message)
  | frame (f : Frame)
  deriving DecidableEq

def Inbound.message? : Inbound → Option Message
  | message m => some m
  | frame _ => none

inductive Level where
  | debug
  | warning
  deriving DecidableEq

def Level.text : Level → String
  | debug => "DEBUG"
  | warning => "WARN"

structure Notice where
  level : Level
  text : String
  deriving DecidableEq

inductive Event where
  | forwarded (frame : Frame)
  | emitted (id : StreamId) (message : Message)
  | replaced (id : StreamId)
  | aborted (id : StreamId) (code : ResetCode)
  | strayHeaders (id : StreamId)
  | strayData (id : StreamId)
  | closed (ids : List StreamId)
  | badRequest (id : StreamId) (fault : Fault)
  | badReply (id : StreamId) (fault : Fault)
  | badPush (id : StreamId) (fault : Fault)
  | pushWithoutStream (id : StreamId)
  | pushWithoutUrl (id : StreamId)
  | refused (id : StreamId) (full : Full)
  | overflowed (overflow : Overflow)
  deriving DecidableEq

namespace Event

def inbound? : Event → Option Inbound
  | forwarded frame => some (.frame frame)
  | emitted _ message => some (.message message)
  | _ => none

theorem eq_emitted_of_inbound? {e : Event} {m : Message} (h : e.inbound? = some (.message m)) :
    ∃ id, e = .emitted id m := by
  cases e with
  | emitted id m' =>
    cases h
    exact ⟨id, rfl⟩
  | _ => cases h

theorem eq_forwarded_of_inbound? {e : Event} {f : Frame} (h : e.inbound? = some (.frame f)) :
    e = .forwarded f := by
  cases e with
  | forwarded f' =>
    cases h
    rfl
  | _ => cases h

def overflow? : Event → Option Overflow
  | overflowed overflow => some overflow
  | _ => none

def isOverflow (e : Event) : Bool :=
  e.overflow?.isSome

/-- The reply to a request that cannot be read. -/
def badRequestBlock (v : Revision) : Fields :=
  Protocol.http10.write v (Status.badRequest.write v ∅)

def outbound? (v : Revision) : Event → Option Frame
  | badRequest id _ => some (.synReply id (badRequestBlock v) true)
  | badReply id _ | badPush id _ | pushWithoutUrl id => some (.rstStream id .protocolError)
  | pushWithoutStream id => some (.rstStream id .invalidStream)
  | refused id _ => some (.rstStream id .refusedStream)
  | _ => none

theorem eq_none_of_outbound? {v : Revision} {e : Event} {g : Frame}
    (h : e.outbound? v = some g) : e.inbound? = none ∧ e.overflow? = none := by
  cases e with
  | badRequest | badReply | badPush | pushWithoutStream | pushWithoutUrl | refused =>
    exact ⟨rfl, rfl⟩
  | forwarded | emitted | replaced | aborted | strayHeaders | strayData | closed | overflowed =>
    cases h

/-- Ids with the name of their type around them, between brackets. -/
def listIds (ids : List StreamId) : String :=
  "[" ++ ", ".intercalate (ids.map fun id => "StreamId(" ++ toString id ++ ")") ++ "]"

def notice? : Event → Option Notice
  | forwarded _ => none
  | emitted id message =>
    some ⟨.debug, "emitting message: stream_id=" ++ toString id ++ ", request=" ++
      toString message.isRequest ++ ", content_length=" ++ toString message.body.size⟩
  | replaced id => some ⟨.debug, "replaced pending message: stream_id=" ++ toString id⟩
  | aborted id code =>
    some ⟨.debug, "discarding pending message for reset stream: stream_id=" ++ toString id ++
      ", status=" ++ toString code⟩
  | strayHeaders id =>
    some ⟨.debug, "discarding HEADERS for unknown stream: stream_id=" ++ toString id⟩
  | strayData id => some ⟨.debug, "discarding DATA for unknown stream: stream_id=" ++ toString id⟩
  | closed ids =>
    some ⟨.debug, "dropping pending streams on close: count=" ++ toString ids.length ++
      ", stream_ids=" ++ listIds ids⟩
  | badRequest id fault =>
    some ⟨.warning, "answering malformed request with 400: stream_id=" ++ toString id ++
      ", error=" ++ fault.message⟩
  | badReply id fault =>
    some ⟨.warning, "rejecting reply: stream_id=" ++ toString id ++ ", error=" ++ fault.message⟩
  | badPush id fault =>
    some ⟨.warning, "rejecting pushed stream: stream_id=" ++ toString id ++ ", error=" ++
      fault.message⟩
  | pushWithoutStream id =>
    some ⟨.warning, "pushed stream without associated stream: stream_id=" ++ toString id⟩
  | pushWithoutUrl id => some ⟨.warning, "pushed stream without url: stream_id=" ++ toString id⟩
  | refused id full =>
    some ⟨.warning, "refusing stream: stream_id=" ++ toString id ++ ", error=" ++ full.message⟩
  | overflowed overflow =>
    some ⟨.warning, "discarding oversized message: stream_id=" ++ toString overflow.id ++
      ", error=" ++ overflow.message⟩

end Event

end Demux
