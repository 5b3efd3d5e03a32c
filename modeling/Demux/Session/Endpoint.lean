import Demux.Session.Calls

namespace Demux

universe u

/-- A session and the sinks that its outcome is put into. -/
structure Endpoint (τ : Type u) where
  session : Session τ
  sink : Sink

/-- What an application asks of a session and its sinks. -/
inductive Command where
  | frame (f : Frame)
  | frames (fs : List Frame)
  | close
  | takeInbound
  | takeOutbound
  deriving DecidableEq

/-- What came of a command, which streams a close gave up, and what was taken out of the sinks. -/
structure Outcome where
  events : List Event := []
  ids : List StreamId := []
  taken : Sink := ∅
  deriving DecidableEq

namespace Command

def isTake : Command → Bool
  | takeInbound | takeOutbound => true
  | frame _ | frames _ | close => false

/-- What a command comes to for the session; of many frames, those up to the first overflow. -/
def calls {τ : Type u} [Store τ] (s : Session τ) : Command → List Call
  | frame f => [.frame f]
  | frames fs => (s.handled fs).map .frame
  | close => [.close]
  | takeInbound | takeOutbound => []

end Command

def Session.callsOf {τ : Type u} [Store τ] (s : Session τ) : List Command → List Call
  | [] => []
  | c :: cs => c.calls s ++ (s.calls (c.calls s)).1.callsOf cs

namespace Outcome

/-- The overflow that a command ends in, if it does. -/
def overflow? (o : Outcome) : Option Overflow :=
  Event.firstOverflow? o.events

/-- All that is taken out of the sinks in a run. -/
def allTaken (os : List Outcome) : Sink :=
  os.foldr (fun o rest => o.taken ++ rest) ∅

def allEvents (os : List Outcome) : List Event :=
  os.flatMap Outcome.events

theorem allTaken_cons (o : Outcome) (os : List Outcome) :
    allTaken (o :: os) = o.taken ++ allTaken os := rfl

theorem allEvents_cons (o : Outcome) (os : List Outcome) :
    allEvents (o :: os) = o.events ++ allEvents os := rfl

end Outcome

namespace Endpoint

variable {τ : Type u} [Store τ]

def feed (e : Endpoint τ) (fs : List Frame) : Endpoint τ × Outcome :=
  let (session, sink, events) := e.session.feedInto e.sink fs
  (⟨session, sink⟩, { events })

def perform (e : Endpoint τ) : Command → Endpoint τ × Outcome
  | .frame f => e.feed [f]
  | .frames fs => e.feed fs
  | .close =>
    let (session, ids, events) := e.session.close
    ({ e with session }, { events, ids })
  | .takeInbound =>
    let (inbound, sink) := e.sink.takeInbound
    ({ e with sink }, { taken := ⟨inbound, []⟩ })
  | .takeOutbound =>
    let (outbound, sink) := e.sink.takeOutbound
    ({ e with sink }, { taken := ⟨[], outbound⟩ })

/-- Carries out all commands, overflows or not. -/
def run (e : Endpoint τ) : List Command → Endpoint τ × List Outcome
  | [] => (e, [])
  | c :: cs =>
    let (e', outcome) := e.perform c
    let (e'', more) := e'.run cs
    (e'', outcome :: more)

theorem run_cons (e : Endpoint τ) (c : Command) (cs : List Command) :
    e.run (c :: cs) =
      (((e.perform c).1.run cs).1, (e.perform c).2 :: ((e.perform c).1.run cs).2) := rfl

theorem feed_eq (e : Endpoint τ) (fs : List Frame) :
    e.feed fs =
      (⟨(e.session.feedAll fs).1,
        e.sink ++ Sink.ofEvents e.session.revision (e.session.feedAll fs).2⟩,
        { events := (e.session.feedAll fs).2 }) := rfl

theorem perform_frame (e : Endpoint τ) (f : Frame) :
    e.perform (.frame f) =
      (⟨(e.session.react f).1, e.sink ++ Sink.ofEvents e.session.revision (e.session.react f).2⟩,
        { events := (e.session.react f).2 }) := by
  rw [perform, feed_eq, Session.feedAll_singleton]

theorem feed_cons (e : Endpoint τ) (f : Frame) (fs : List Frame) :
    let r := e.perform (.frame f)
    e.feed (f :: fs) =
      if r.2.overflow?.isSome then r
      else ((r.1.feed fs).1, { events := r.2.events ++ (r.1.feed fs).2.events }) := by
  intro r
  have hr : r = _ := e.perform_frame f
  rw [hr, feed_eq, feed_eq, Session.feedAll_cons, Outcome.overflow?, Event.isSome_firstOverflow?]
  split
  · rfl
  · rw [Sink.ofEvents_append, Session.revision_react, Sink.append_assoc]

theorem session_perform (e : Endpoint τ) (c : Command) :
    (e.perform c).1.session = (e.session.calls (c.calls e.session)).1 ∧
      (e.perform c).2.events = (e.session.calls (c.calls e.session)).2 := by
  have hfeed (fs : List Frame) :
      e.session.feedAll fs = e.session.calls ((e.session.handled fs).map .frame) := by
    rw [Session.calls_frames, Session.feedAll_eq_feed_handled]
  cases c with
  | frame f =>
    have h := hfeed [f]
    rw [Session.handled_singleton] at h
    exact ⟨congrArg Prod.fst h, congrArg Prod.snd h⟩
  | frames fs => exact ⟨congrArg Prod.fst (hfeed fs), congrArg Prod.snd (hfeed fs)⟩
  | close => exact ⟨rfl, (List.append_nil _).symm⟩
  | takeInbound | takeOutbound => exact ⟨rfl, rfl⟩

theorem session_run (e : Endpoint τ) (cs : List Command) :
    (e.run cs).1.session = (e.session.calls (e.session.callsOf cs)).1 ∧
      Outcome.allEvents (e.run cs).2 = (e.session.calls (e.session.callsOf cs)).2 := by
  induction cs generalizing e with
  | nil => exact ⟨rfl, rfl⟩
  | cons c cs ih =>
    obtain ⟨hsession, hevents⟩ := e.session_perform c
    obtain ⟨hend, hmore⟩ := ih (e.perform c).1
    rw [hsession] at hend hmore
    rw [Session.callsOf, Session.calls_append, run_cons, Outcome.allEvents_cons, hevents, hmore]
    exact ⟨hend, rfl⟩

theorem revision_perform (e : Endpoint τ) (c : Command) :
    (e.perform c).1.session.revision = e.session.revision := by
  rw [(e.session_perform c).1, Session.revision_calls]

theorem taken_perform (e : Endpoint τ) (c : Command) :
    (e.perform c).2.taken ++ (e.perform c).1.sink =
      e.sink ++ Sink.ofEvents e.session.revision (e.perform c).2.events := by
  cases c with
  | frame f | frames fs => rfl
  | close =>
    show ∅ ++ e.sink = e.sink ++ Sink.ofEvents e.session.revision e.session.close.2.2
    rw [Session.sink_close, Sink.append_empty, Sink.empty_append]
  | takeInbound =>
    show Sink.mk (e.sink.inbound ++ []) ([] ++ e.sink.outbound) = e.sink ++ ∅
    rw [List.append_nil, List.nil_append, Sink.append_empty]
  | takeOutbound =>
    show Sink.mk ([] ++ e.sink.inbound) (e.sink.outbound ++ []) = e.sink ++ ∅
    rw [List.append_nil, List.nil_append, Sink.append_empty]

/-- Nothing is lost and nothing comes twice, whenever the sinks are emptied. -/
theorem taken_run (e : Endpoint τ) (cs : List Command) :
    Outcome.allTaken (e.run cs).2 ++ (e.run cs).1.sink =
      e.sink ++ Sink.ofEvents e.session.revision (Outcome.allEvents (e.run cs).2) := by
  induction cs generalizing e with
  | nil => exact (Sink.append_empty _).symm
  | cons c cs ih =>
    have hrest := ih (e.perform c).1
    rw [revision_perform] at hrest
    rw [run_cons, Outcome.allTaken_cons, Outcome.allEvents_cons, Sink.append_assoc, hrest,
      ← Sink.append_assoc, taken_perform, Sink.ofEvents_append, Sink.append_assoc]

end Endpoint

end Demux
