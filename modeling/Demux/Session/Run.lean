import Demux.Session.Lemmas

namespace Demux

universe u

namespace Session

variable {τ : Type u} [Store τ]

/-- Goes through all frames, overflows or not. -/
def feed (s : Session τ) : List Frame → Session τ × List Event
  | [] => (s, [])
  | f :: fs =>
    let (s', events) := s.react f
    let (s'', more) := s'.feed fs
    (s'', events ++ more)

/-- Goes through the frames up to the first overflow. -/
def feedAll (s : Session τ) : List Frame → Session τ × List Event
  | [] => (s, [])
  | f :: fs =>
    let (s', events) := s.react f
    if events.any Event.isOverflow then (s', events)
    else
      let (s'', more) := s'.feedAll fs
      (s'', events ++ more)

/-- The frames that are gone through up to the first overflow, with the one that overflows. -/
def handled (s : Session τ) : List Frame → List Frame
  | [] => []
  | f :: fs => f :: if (s.react f).2.any Event.isOverflow then [] else (s.react f).1.handled fs

@[simp] theorem feed_nil (s : Session τ) : s.feed [] = (s, []) := rfl

theorem feed_cons (s : Session τ) (f : Frame) (fs : List Frame) :
    s.feed (f :: fs) =
      (((s.react f).1.feed fs).1, (s.react f).2 ++ ((s.react f).1.feed fs).2) := rfl

theorem feedAll_cons (s : Session τ) (f : Frame) (fs : List Frame) :
    s.feedAll (f :: fs) =
      if (s.react f).2.any Event.isOverflow then s.react f
      else (((s.react f).1.feedAll fs).1, (s.react f).2 ++ ((s.react f).1.feedAll fs).2) := rfl

theorem feed_append (s : Session τ) (fs gs : List Frame) :
    s.feed (fs ++ gs) =
      (((s.feed fs).1.feed gs).1, (s.feed fs).2 ++ ((s.feed fs).1.feed gs).2) := by
  induction fs generalizing s with
  | nil => rfl
  | cons f fs ih => simp [feed_cons, ih]

theorem terms_feed (s : Session τ) (fs : List Frame) : (s.feed fs).1.terms = s.terms := by
  induction fs generalizing s with
  | nil => rfl
  | cons f fs ih => exact (ih _).trans (s.terms_react f)

theorem limit_feed (s : Session τ) (fs : List Frame) : (s.feed fs).1.limit = s.limit :=
  congrArg Terms.limit (s.terms_feed fs)

theorem bounds_feed [LawfulStore τ] (s : Session τ) (fs : List Frame) :
    Store.bounds (s.feed fs).1.pending = Store.bounds s.pending := by
  induction fs generalizing s with
  | nil => rfl
  | cons f fs ih => exact (ih _).trans (s.bounds_react f)

theorem feedAll_eq_feed_handled (s : Session τ) (fs : List Frame) :
    s.feedAll fs = s.feed (s.handled fs) := by
  induction fs generalizing s with
  | nil => rfl
  | cons f fs ih =>
    rw [feedAll_cons, handled, feed_cons]
    split
    · rw [feed_nil, List.append_nil]
    · rw [ih]

@[simp] theorem handled_singleton (s : Session τ) (f : Frame) : s.handled [f] = [f] := by
  rw [handled, handled, ite_self]

theorem feedAll_singleton (s : Session τ) (f : Frame) : s.feedAll [f] = s.react f := by
  rw [feedAll_eq_feed_handled, handled_singleton, feed_cons, feed_nil, List.append_nil]

end Session

/-- The overflow that the events end in, if they do. -/
def Event.firstOverflow? (events : List Event) : Option Overflow :=
  events.findSome? Event.overflow?

theorem Event.isSome_firstOverflow? (events : List Event) :
    (firstOverflow? events).isSome = events.any isOverflow := by
  rw [firstOverflow?, List.isSome_findSome?]
  rfl

theorem Event.firstOverflow?_eq_none_iff {events : List Event} :
    firstOverflow? events = none ↔ events.any isOverflow = false := by
  rw [← isSome_firstOverflow?, Option.isSome_eq_false_iff, Option.isNone_iff_eq_none]

theorem Event.firstOverflow?_append (events more : List Event) :
    firstOverflow? (events ++ more) = (firstOverflow? events).or (firstOverflow? more) :=
  List.findSome?_append

/-- What is meant for the application and what for the peer, each in the order it came in. -/
structure Sink where
  inbound : List Inbound
  outbound : List Frame
  deriving DecidableEq

namespace Sink

def empty : Sink := ⟨[], []⟩

instance : EmptyCollection Sink := ⟨empty⟩

def isEmpty (k : Sink) : Bool :=
  k.inbound.isEmpty && k.outbound.isEmpty

def messages (k : Sink) : List Message :=
  k.inbound.filterMap Inbound.message?

/-- What the events of a session in revision `v` put into the sinks. -/
def ofEvents (v : Revision) (events : List Event) : Sink :=
  ⟨events.filterMap Event.inbound?, events.filterMap (Event.outbound? v)⟩

instance : Append Sink := ⟨fun k l => ⟨k.inbound ++ l.inbound, k.outbound ++ l.outbound⟩⟩

def takeInbound (k : Sink) : List Inbound × Sink :=
  (k.inbound, { k with inbound := [] })

def takeOutbound (k : Sink) : List Frame × Sink :=
  (k.outbound, { k with outbound := [] })

theorem append_def (k l : Sink) :
    k ++ l = ⟨k.inbound ++ l.inbound, k.outbound ++ l.outbound⟩ := rfl

@[simp] theorem empty_append (k : Sink) : ∅ ++ k = k := rfl

@[simp] theorem append_empty (k : Sink) : k ++ ∅ = k := by
  show Sink.mk (k.inbound ++ []) (k.outbound ++ []) = k
  simp

theorem append_assoc (k l m : Sink) : k ++ l ++ m = k ++ (l ++ m) := by
  simp [append_def]

@[simp] theorem ofEvents_append (v : Revision) (es fs : List Event) :
    ofEvents v (es ++ fs) = ofEvents v es ++ ofEvents v fs := by
  simp [ofEvents, append_def]

theorem messages_append (k l : Sink) : (k ++ l).messages = k.messages ++ l.messages :=
  List.filterMap_append

theorem mem_messages_ofEvents {v : Revision} {events : List Event} {m : Message} :
    m ∈ (ofEvents v events).messages ↔ ∃ id, .emitted id m ∈ events := by
  constructor
  · intro hm
    obtain ⟨i, hi, him⟩ := List.mem_filterMap.1 hm
    obtain ⟨e, he, hei⟩ := List.mem_filterMap.1 hi
    cases i with
    | message m' =>
      cases him
      obtain ⟨id, rfl⟩ := Event.eq_emitted_of_inbound? hei
      exact ⟨id, he⟩
    | frame f => cases him
  · rintro ⟨id, he⟩
    exact List.mem_filterMap.2 ⟨.message m, List.mem_filterMap.2 ⟨_, he, rfl⟩, rfl⟩

end Sink

def Session.feedInto {τ : Type u} [Store τ] (s : Session τ) (k : Sink) (fs : List Frame) :
    Session τ × Sink × List Event :=
  let (s', events) := s.feedAll fs
  (s', k ++ Sink.ofEvents s.revision events, events)

end Demux
