import Demux.Session.Run
import Mathlib.Data.List.Forall2

namespace Demux

/-- What a record may be about. -/
inductive Topic where
  | control
  | overflow
  | message
  | stray
  | reset
  | replacement
  | closing
  deriving DecidableEq

namespace Topic

def ofHeading? : String → Option Topic
  | "answering malformed request with 400" | "rejecting reply" | "rejecting pushed stream"
  | "pushed stream without associated stream" | "pushed stream without url" | "refusing stream" =>
    some control
  | "discarding oversized message" => some overflow
  | "emitting message" => some message
  | "discarding HEADERS for unknown stream" | "discarding DATA for unknown stream" => some stray
  | "discarding pending message for reset stream" => some reset
  | "replaced pending message" => some replacement
  | "dropping pending streams on close" => some closing
  | _ => none

/-- The record is all that there is to be seen of it, outside of the session. -/
def isRemark : Topic → Bool
  | stray | reset | replacement | closing => true
  | control | overflow | message => false

end Topic

namespace Notice

/-- What a record says before its first colon. -/
def heading (n : Notice) : String :=
  .ofList (n.text.toList.takeWhile (· ≠ ':'))

def topic? (n : Notice) : Option Topic :=
  Topic.ofHeading? n.heading

/-- How many of the records are on a topic. -/
def tally (records : List Notice) (topic : Topic) : Nat :=
  (records.filterMap topic?).count topic

def isAt (level : Level) (n : Notice) : Bool :=
  n.level = level

/-- `n.Announces v g`: the record is made as frame `g` is put in for the peer. -/
def Announces (v : Revision) (n : Notice) (g : Frame) : Prop :=
  ∃ e : Event, e.notice? = some n ∧ e.outbound? v = some g

end Notice

namespace Event

def topic? : Event → Option Topic
  | forwarded _ => none
  | emitted .. => some .message
  | replaced _ => some .replacement
  | aborted .. => some .reset
  | strayHeaders _ | strayData _ => some .stray
  | closed _ => some .closing
  | badRequest .. | badReply .. | badPush .. | pushWithoutStream _ | pushWithoutUrl _
  | refused .. => some .control
  | overflowed _ => some .overflow

/-- What the record of an event begins with, if there is one. -/
def heading? : Event → Option String
  | forwarded _ => none
  | emitted .. => some "emitting message"
  | replaced _ => some "replaced pending message"
  | aborted .. => some "discarding pending message for reset stream"
  | strayHeaders _ => some "discarding HEADERS for unknown stream"
  | strayData _ => some "discarding DATA for unknown stream"
  | closed _ => some "dropping pending streams on close"
  | badRequest .. => some "answering malformed request with 400"
  | badReply .. => some "rejecting reply"
  | badPush .. => some "rejecting pushed stream"
  | pushWithoutStream _ => some "pushed stream without associated stream"
  | pushWithoutUrl _ => some "pushed stream without url"
  | refused .. => some "refusing stream"
  | overflowed _ => some "discarding oversized message"

def remark? (e : Event) : Option Topic :=
  e.topic?.filter Topic.isRemark

def notices (events : List Event) : List Notice :=
  events.filterMap notice?

theorem heading_of_notice? {e : Event} {n : Notice} (h : e.notice? = some n) :
    e.heading? = some n.heading := by
  cases e with
  | forwarded => cases h
  | emitted | replaced | aborted | strayHeaders | strayData | closed | badRequest | badReply
  | badPush | pushWithoutStream | pushWithoutUrl | refused | overflowed =>
    cases h
    simp [heading?, Notice.heading]

theorem topic?_eq_ofHeading? (e : Event) : e.topic? = e.heading?.bind Topic.ofHeading? := by
  cases e <;> rfl

theorem topic?_of_notice? {e : Event} {n : Notice} (h : e.notice? = some n) :
    n.topic? = e.topic? := by
  rw [topic?_eq_ofHeading?, heading_of_notice? h]
  rfl

theorem topic?_of_notice?_eq_none {e : Event} (h : e.notice? = none) : e.topic? = none := by
  cases e with
  | forwarded => rfl
  | _ => cases h

theorem notices_append (es fs : List Event) : notices (es ++ fs) = notices es ++ notices fs :=
  List.filterMap_append

theorem tally_notices (events : List Event) (topic : Topic) :
    Notice.tally (notices events) topic = events.countP (·.topic? = some topic) := by
  rw [Notice.tally, notices, List.filterMap_filterMap, List.count_eq_countP, List.countP_filterMap]
  apply List.countP_congr
  intro e _
  cases h : e.notice? with
  | none => simp [topic?_of_notice?_eq_none h]
  | some n => cases ht : e.topic? <;> simp [topic?_of_notice? h, ht]

theorem countP_control (events : List Event) (v : Revision) :
    events.countP (·.topic? = some .control) = (Sink.ofEvents v events).outbound.length := by
  rw [Sink.ofEvents, List.length_filterMap_eq_countP]
  apply List.countP_congr
  intro e _
  cases e <;> simp [topic?, outbound?]

theorem countP_overflow (events : List Event) :
    events.countP (·.topic? = some .overflow) = events.countP isOverflow := by
  apply List.countP_congr
  intro e _
  cases e <;> simp [topic?, isOverflow, overflow?]

theorem countP_message (events : List Event) (v : Revision) :
    events.countP (·.topic? = some .message) = (Sink.ofEvents v events).messages.length := by
  rw [Sink.ofEvents, Sink.messages, List.filterMap_filterMap, List.length_filterMap_eq_countP]
  apply List.countP_congr
  intro e _
  cases e <;> simp [topic?, inbound?, Inbound.message?]

theorem countP_remark {topic : Topic} (h : topic.isRemark = true) (events : List Event) :
    events.countP (·.topic? = some topic) = (events.filterMap remark?).countP (· = topic) := by
  rw [List.countP_filterMap]
  apply List.countP_congr
  intro e _
  rw [remark?]
  cases he : e.topic? with
  | none => simp
  | some t =>
    by_cases ht : t = topic
    · subst ht
      simp [Option.filter, h]
    · cases hr : t.isRemark <;> simp [Option.filter, hr, ht]

theorem length_details (events : List Event) (v : Revision) :
    ((notices events).filter (·.isAt .debug)).length =
      (Sink.ofEvents v events).messages.length + (events.filterMap remark?).length := by
  induction events with
  | nil => rfl
  | cons e es ih =>
    cases e with
    | emitted => exact (congrArg (· + 1) ih).trans (Nat.add_right_comm _ _ 1)
    | replaced | aborted | strayHeaders | strayData | closed =>
      exact (congrArg (· + 1) ih).trans (Nat.add_assoc _ _ 1)
    | forwarded | badRequest | badReply | badPush | pushWithoutStream | pushWithoutUrl | refused
    | overflowed => exact ih

/-- Where there is no overflow, warnings and frames for the peer go together. -/
theorem announces_of_fits {events : List Event} (h : events.any isOverflow = false)
    (v : Revision) :
    List.Forall₂ (Notice.Announces v) ((notices events).filter (·.isAt .warning))
      (Sink.ofEvents v events).outbound := by
  induction events with
  | nil => exact .nil
  | cons e es ih =>
    rw [List.any_cons, Bool.or_eq_false_iff] at h
    have hrest := ih h.2
    cases e with
    | badRequest id fault => exact .cons ⟨.badRequest id fault, rfl, rfl⟩ hrest
    | badReply id fault => exact .cons ⟨.badReply id fault, rfl, rfl⟩ hrest
    | badPush id fault => exact .cons ⟨.badPush id fault, rfl, rfl⟩ hrest
    | pushWithoutStream id => exact .cons ⟨.pushWithoutStream id, rfl, rfl⟩ hrest
    | pushWithoutUrl id => exact .cons ⟨.pushWithoutUrl id, rfl, rfl⟩ hrest
    | refused id full => exact .cons ⟨.refused id full, rfl, rfl⟩ hrest
    | overflowed => cases h.1
    | forwarded | emitted | replaced | aborted | strayHeaders | strayData | closed => exact hrest

end Event

end Demux
