import Demux.Session.Opening
import Demux.Terms

namespace Demux

universe u

structure Session (τ : Type u) where
  terms : Terms
  pending : τ

namespace Session

variable {τ : Type u} [Store τ]

def revision (s : Session τ) : Revision :=
  s.terms.revision

def limit (s : Session τ) : Nat :=
  s.terms.limit

def pending? (s : Session τ) (id : StreamId) : Option Message :=
  Store.get? s.pending id

def isPending (s : Session τ) (id : StreamId) : Bool :=
  Store.contains s.pending id

def pendingCount (s : Session τ) : Nat :=
  Store.size s.pending

/-- Keeps a message whose stream goes on. -/
def keep (s : Session τ) (id : StreamId) (message : Message) : Session τ × List Event :=
  match Store.put s.pending id message with
  | .ok pending => ({ s with pending }, if s.isPending id then [.replaced id] else [])
  | .error full => (s, [.refused id full])

def drop (s : Session τ) (id : StreamId) : Session τ :=
  { s with pending := Store.erase s.pending id }

/-- Emits the message of a stream that has come to its end. -/
def finish (s : Session τ) (id : StreamId) : Session τ × List Event :=
  match s.pending? id with
  | some message => (s.drop id, [.emitted id (message.setContentLength message.body.size)])
  | none => (s, [])

/-- Emits the message of an opening frame that is also the last, and keeps any other. -/
def start (s : Session τ) (id : StreamId) (opening : Except Event Message) (last : Bool) :
    Session τ × List Event :=
  match opening with
  | .ok message => if last then (s, [.emitted id message]) else s.keep id message
  | .error event => (s, [event])

def addHeaders (s : Session τ) (id : StreamId) (block : Fields) (last : Bool) :
    Session τ × List Event :=
  if s.isPending id then
    let pending := Store.modify s.pending id fun m => m.mapHeaders (· ++ block)
    let s := { s with pending }
    if last then s.finish id else (s, [])
  else (s, [.strayHeaders id])

/-- A body may fill the limit but not outgrow it. -/
def addData (s : Session τ) (id : StreamId) (payload : ByteArray) (last : Bool) :
    Session τ × List Event :=
  match (s.pending? id).map fun m => m.body.size with
  | none => (s, [.strayData id])
  | some size =>
    if s.limit < size + payload.size then
      (s.drop id, [.overflowed ⟨id, size + payload.size, s.limit⟩])
    else
      let s := { s with pending := Store.modify s.pending id (·.append payload) }
      if last then s.finish id else (s, [])

def abort (s : Session τ) (id : StreamId) (code : ResetCode) : Session τ × List Event :=
  if s.isPending id then (s.drop id, [.aborted id code]) else (s, [])

/-- What a frame does to a session, and what comes of it. -/
def react (s : Session τ) : Frame → Session τ × List Event
  | .synStream id associated priority block last =>
    if id.isServer then
      let opening := Opening.push s.revision id associated priority block last
      let (s', events) := s.start id opening last
      (s', Opening.pushWarnings id associated ++ events)
    else s.start id (Opening.request s.revision id block) last
  | .synReply id block last => s.start id (Opening.reply s.revision id block last) last
  | .headers id block last => s.addHeaders id block last
  | .data id payload last => s.addData id payload last
  | .rstStream id code => s.abort id code
  | frame => (s, [.forwarded frame])

/-- Drops all pending messages, and gives the ids of their streams. -/
def close (s : Session τ) : Session τ × List StreamId × List Event :=
  let ids := Store.ids s.pending
  ({ s with pending := Store.clear s.pending }, ids, if ids.isEmpty then [] else [.closed ids])

end Session

end Demux
