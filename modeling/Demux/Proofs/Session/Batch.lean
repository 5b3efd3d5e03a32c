import Demux.Proofs.Session.Limit
import Demux.Proofs.Session.Rejection
import Demux.Session.Endpoint

namespace Demux

universe u

namespace Step

/-- How many bytes the step brings for the body of this stream. -/
def bytes (id : StreamId) : Step → Nat
  | ⟨.frame f, _⟩ => (f.bytesFor id).size
  | ⟨.close, _⟩ => 0

/-- How much of a body is pending for this stream after a step, if `n` was before. -/
def bodySize (v : Revision) (id : StreamId) (n : Option Nat) (t : Step) : Option Nat :=
  if t.accepts v id && t.opens v id then some 0
  else if t.ends id then none
  else n.map (· + t.bytes id)

theorem bodySize_of_not_opens {v : Revision} {id : StreamId} {t : Step}
    (hopens : (t.accepts v id && t.opens v id) = false) (n : Option Nat) :
    t.bodySize v id n = if t.ends id then none else n.map (· + t.bytes id) := by
  rw [bodySize, hopens]
  rfl

end Step

theorem Frame.bytesFor_of_opening {v : Revision} {f : Frame} (h : (f.opening? v).isSome = true)
    (id : StreamId) : f.bytesFor id = .empty := by
  cases f with
  | synStream | synReply => rfl
  | headers | data | rstStream | settings | ping | goAway | windowUpdate => cases h

section Turn

variable {terms : Terms} {full : Option Full} {v : Revision} {id : StreamId} {f : Frame}
  {p p' : Slot} {events : List Event}

theorem Opens.bodySize {m : Message} (h : Opens v f id m) (hlast : f.isLast = false)
    (haccepts : (Step.mk (.frame f) events).accepts v id = true) (n : Option Nat) :
    (Step.mk (.frame f) events).bodySize v id n = some m.body.size := by
  rw [Step.bodySize, haccepts, Step.opens_of_opens h, hlast, h.body]
  rfl

theorem Step.bodySize_of_opening (ho : (f.opening? v).isSome = true) {t : Step}
    (ht : t = ⟨.frame f, events⟩) (hover : events.any (·.overflows id) = false)
    (hopens : (t.accepts v id && t.opens v id) = false) (n : Option Nat) :
    t.bodySize v id n = n := by
  subst ht
  rw [bodySize_of_not_opens hopens, ends_of_opening ho hover, bytes, Frame.bytesFor_of_opening ho]
  exact congrFun Option.map_id n

theorem Turn.bodySize (h : Turn terms full id f p p' events) :
    (p'.map fun m => m.body.size) =
      (Step.mk (.frame f) events).bodySize terms.revision id (p.map fun m => m.body.size) := by
  cases h with
  | @rejected _ _ event rejects =>
    symm
    apply Step.bodySize_of_opening rejects.isSome_opening? rfl
    · rw [f.any_overflows_warnings_append, rejects.overflows]
    · rw [Step.opens_of_not_opensFor rejects.opensFor, Bool.and_false]
  | answered opens last =>
    symm
    apply Step.bodySize_of_opening opens.isSome_opening? rfl
    · exact f.any_overflows_warnings_append _ _
    · rw [Step.opens_of_opens opens, last]
      exact Bool.and_false _
  | refused opens =>
    symm
    apply Step.bodySize_of_opening opens.isSome_opening? rfl
    · exact f.any_overflows_warnings_append _ _
    · simp [Step.accepts, Event.refuses]
  | kept opens last =>
    exact (opens.bodySize last (opens.accepts (f.any_refuses_warnings id)) _).symm
  | replaced opens last => exact (opens.bodySize last (opens.accepts_append rfl) _).symm
  | strayHeaders | strayData | addedHeaders | addedData | endedByHeaders | endedByData
  | overflowed | aborted | idle | forwarded =>
    simp [Step.bodySize, Step.opens, Step.ends, Step.bytes, Frame.opensFor, Frame.opening?,
      Frame.endsMessage, Frame.resets, Frame.bytesFor, Event.overflows, Event.overflow?,
      Function.comp_def]

end Turn

namespace Session

section Size

variable {τ : Type u} [Store τ]

/-- How much of a body is pending for a stream after the calls, told from their history. -/
def bodySizeAfter (s : Session τ) (cs : List Call) (id : StreamId) : Option Nat :=
  (s.history cs).foldl (Step.bodySize s.revision id) ((s.pending? id).map fun m => m.body.size)

/-- A `DATA` frame is an overflow if it takes a body that is pending then over the limit. -/
def overflowAfter? (s : Session τ) (cs : List Call) : Frame → Option Overflow
  | .data id payload _ =>
    match s.bodySizeAfter cs id with
    | some n =>
      if s.limit < n + payload.size then some ⟨id, n + payload.size, s.limit⟩ else none
    | none => none
  | _ => none

end Size

variable {τ : Type u} [Store τ] [LawfulStore τ]

theorem bodySize_call (s : Session τ) (c : Call) (id : StreamId) :
    ((s.call c).1.pending? id).map (fun m => m.body.size) =
      (Step.mk c (s.call c).2).bodySize s.revision id
        ((s.pending? id).map fun m => m.body.size) := by
  cases c with
  | close => exact congrArg (Option.map _) (s.pending?_close id)
  | frame f =>
    by_cases hid : f.streamId? = some id
    · exact (s.turn hid).bodySize
    · have hopens := Step.opens_of_not_opensFor (Frame.opensFor_of_ne (v := s.revision) hid)
        (s.call (.frame f)).2
      rw [Step.bodySize_of_not_opens (by rw [hopens, Bool.and_false]), s.ends_of_ne hid, Step.bytes,
        Frame.bytesFor_of_ne hid, call, s.pending?_react_of_ne hid]
      exact (congrFun Option.map_id _).symm

theorem bodySize_calls (s : Session τ) (cs : List Call) (id : StreamId) :
    ((s.calls cs).1.pending? id).map (fun m => m.body.size) = s.bodySizeAfter cs id := by
  rw [bodySizeAfter]
  induction cs generalizing s with
  | nil => rfl
  | cons c cs ih =>
    have hrest := ih (s.call c).1
    rw [s.revision_call c, bodySize_call] at hrest
    rw [calls_cons, history_cons, List.foldl_cons, hrest]

theorem overflowAfter?_eq_some_iff {s : Session τ} {cs : List Call} {f : Frame} {o : Overflow} :
    s.overflowAfter? cs f = some o ↔
      ∃ id payload last m, f = .data id payload last ∧ (s.calls cs).1.pending? id = some m ∧
        s.limit < m.body.size + payload.size ∧ o = ⟨id, m.body.size + payload.size, s.limit⟩ := by
  cases f with
  | data id payload last =>
    rw [overflowAfter?, ← bodySize_calls]
    cases hp : (s.calls cs).1.pending? id with
    | none =>
      constructor
      · intro h
        cases h
      · rintro ⟨k, bytes, last', m, heq, hm, -⟩
        cases heq
        cases hp.symm.trans hm
    | some m =>
      constructor
      · intro h
        obtain ⟨hover, heq⟩ := Option.ite_none_right_eq_some.1 h
        exact ⟨id, payload, last, m, rfl, hp, hover, (Option.some.inj heq).symm⟩
      · rintro ⟨k, bytes, last', m', heq, hm, hover, rfl⟩
        cases heq
        cases hp.symm.trans hm
        exact if_pos hover
  | synStream | synReply | headers | rstStream | settings | ping | goAway | windowUpdate =>
    simp [overflowAfter?]

theorem firstOverflow?_calls (s : Session τ) (cs : List Call) (f : Frame) :
    Event.firstOverflow? ((s.calls cs).1.react f).2 = s.overflowAfter? cs f := by
  apply Option.ext
  intro o
  rw [firstOverflow?_react, overflowAfter?_eq_some_iff, limit_calls]

/-- A frame that is an overflow has its stream's message dropped, and does nothing else. -/
theorem react_of_firstOverflow? {s : Session τ} {f : Frame} {o : Overflow}
    (h : Event.firstOverflow? (s.react f).2 = some o) :
    f.streamId? = some o.id ∧ s.react f = (s.drop o.id, [.overflowed o]) := by
  obtain ⟨id, payload, last, m, rfl, hm, hover, rfl⟩ := (s.firstOverflow?_react f o).1 h
  refine ⟨rfl, ?_⟩
  simp only [react, addData, hm, Option.map_some, if_pos hover]

end Session

namespace Endpoint

section Feed

variable {τ : Type u} [Store τ]

theorem feed_append_of_fits {e : Endpoint τ} {fs : List Frame}
    (h : ∀ o ∈ (e.run (fs.map .frame)).2, o.overflow? = none) (gs : List Frame) :
    let each := e.run (fs.map .frame)
    let rest := each.1.feed gs
    e.feed (fs ++ gs) = (rest.1, { events := Outcome.allEvents each.2 ++ rest.2.events }) := by
  induction fs generalizing e with
  | nil => rfl
  | cons f fs ih =>
    rw [List.map_cons, run_cons] at h
    obtain ⟨hfirst, hrest⟩ := List.forall_mem_cons.1 h
    have hnone : (e.perform (.frame f)).2.overflow?.isSome = false := by
      rw [hfirst]
      rfl
    rw [List.cons_append, feed_cons, hnone, if_neg Bool.false_ne_true, ih hrest]
    simp only [List.map_cons, run_cons, Outcome.allEvents_cons, List.append_assoc]

end Feed

variable {τ : Type u} [Store τ]

theorem overflow?_allEvents {os : List Outcome} (h : ∀ o ∈ os, o.overflow? = none) :
    Event.firstOverflow? (Outcome.allEvents os) = none := by
  induction os with
  | nil => rfl
  | cons o os ih =>
    obtain ⟨hfirst, hrest⟩ := List.forall_mem_cons.1 h
    rw [Outcome.allEvents_cons, Event.firstOverflow?_append, ih hrest, Option.or_none]
    exact hfirst

theorem callsOf_frames (s : Session τ) (fs : List Frame) :
    s.callsOf (fs.map .frame) = fs.map .frame := by
  induction fs generalizing s with
  | nil => rfl
  | cons f fs ih =>
    rw [List.map_cons, Session.callsOf, ih]
    rfl

variable [LawfulStore τ]

theorem overflow?_run_frames (e : Endpoint τ) (fs : List Frame) (f : Frame) :
    ((e.run (fs.map .frame)).1.perform (.frame f)).2.overflow? =
      e.session.overflowAfter? (fs.map .frame) f := by
  rw [perform_frame, (e.session_run _).1, callsOf_frames]
  exact e.session.firstOverflow?_calls _ f

theorem feed_of_overflow {e : Endpoint τ} {before : List Frame} {f : Frame} {o : Overflow}
    (hfits : ∀ p ∈ (e.run (before.map .frame)).2, p.overflow? = none)
    (ho : ((e.run (before.map .frame)).1.perform (.frame f)).2.overflow? = some o)
    (after : List Frame) :
    let upTo := e.run (before.map .frame)
    f.streamId? = some o.id ∧
      e.feed (before ++ f :: after) = (⟨upTo.1.session.drop o.id, upTo.1.sink⟩,
        { events := Outcome.allEvents upTo.2 ++ [.overflowed o] }) := by
  intro upTo
  obtain ⟨hid, hreact⟩ := Session.react_of_firstOverflow? (perform_frame upTo.1 f ▸ ho)
  refine ⟨hid, ?_⟩
  have hlast : upTo.1.perform (.frame f) =
      (⟨upTo.1.session.drop o.id, upTo.1.sink⟩, { events := [.overflowed o] }) := by
    rw [perform_frame, hreact]
    exact congrArg (fun k => ((⟨_, k⟩ : Endpoint τ), _)) (Sink.append_empty _)
  rw [feed_append_of_fits hfits, feed_cons, ho, Option.isSome_some, if_pos rfl, hlast]

/-- A batch is its frames one by one, up to the first overflow, which ends it. -/
theorem feed_stops_at_overflow (e : Endpoint τ) (fs gs : List Frame) :
    let each := e.run (fs.map .frame)
    let rest := each.1.feed gs
    let all := e.feed (fs ++ gs)
    ((∀ o ∈ each.2, o.overflow? = none) →
      all.1 = rest.1 ∧ all.2.overflow? = rest.2.overflow? ∧
        all.2.events = Outcome.allEvents each.2 ++ rest.2.events) ∧
    ∀ before f after, fs = before ++ f :: after →
      let upTo := e.run (before.map .frame)
      let r := upTo.1.perform (.frame f)
      r.2.overflow? = e.session.overflowAfter? (before.map .frame) f ∧
      ∀ o, (∀ p ∈ upTo.2, p.overflow? = none) → r.2.overflow? = some o →
        f.streamId? = some o.id ∧ all.2.overflow? = some o ∧
          all.1 = ⟨upTo.1.session.drop o.id, upTo.1.sink⟩ ∧ all = e.feed fs := by
  intro each rest all
  constructor
  · intro hfits
    have hall : all = (rest.1, { events := Outcome.allEvents each.2 ++ rest.2.events }) :=
      feed_append_of_fits hfits gs
    rw [hall]
    refine ⟨rfl, ?_, rfl⟩
    rw [Outcome.overflow?, Event.firstOverflow?_append, overflow?_allEvents hfits]
    exact Option.none_or
  · rintro before f after rfl upTo r
    refine ⟨e.overflow?_run_frames before f, ?_⟩
    intro o hfits ho
    have hassoc : before ++ f :: (after ++ gs) = (before ++ f :: after) ++ gs :=
      (List.append_assoc before (f :: after) gs).symm
    obtain ⟨hid, hall⟩ := feed_of_overflow hfits ho (after ++ gs)
    obtain ⟨-, hshort⟩ := feed_of_overflow hfits ho after
    rw [hassoc] at hall
    refine ⟨hid, ?_, congrArg Prod.fst hall, hall.trans hshort.symm⟩
    show (e.feed ((before ++ f :: after) ++ gs)).2.overflow? = some o
    rw [hall, Outcome.overflow?, Event.firstOverflow?_append, overflow?_allEvents hfits]
    rfl

theorem feed_stops_at_overflow_two_bytes :
    let id := StreamId.ofNat 1
    let e : Endpoint TreeStore := ⟨⟨⟨.three, 2, by decide⟩, ∅⟩, ⟨[], []⟩⟩
    let reply (k : StreamId) := Frame.synReply k (Fields.replyBlock .three "200 OK") false
    let before := [reply id, .data id ⟨#[1, 2]⟩ false, .ping 1, reply id, .data id ⟨#[3]⟩ false]
    let f := Frame.data id ⟨#[4, 5]⟩ true
    let after := [reply (.ofNat 3)]
    let upTo := e.run (before.map .frame)
    (∀ p ∈ upTo.2, p.overflow? = none) ∧
      (e.feed (before ++ after)).2.overflow? = none ∧
      e.session.overflowAfter? (before.map .frame) f = some ⟨id, 3, 2⟩ ∧
      (e.feed (before ++ f :: after)).2.overflow? = some ⟨id, 3, 2⟩ ∧
      (e.feed (before ++ f :: after)).1.sink = ⟨[.frame (.ping 1)], []⟩ ∧
      (e.feed (before ++ f :: after)).1.session.isPending id = false := by
  intro id e reply before f after upTo
  have hfits : ∀ p ∈ upTo.2, p.overflow? = none := by decide +kernel
  have hsize : e.session.overflowAfter? (before.map .frame) f = some ⟨id, 3, 2⟩ := by
    decide +kernel
  obtain ⟨hall, -⟩ := feed_stops_at_overflow e before after
  obtain ⟨-, hstop⟩ := feed_stops_at_overflow e (before ++ f :: after) []
  obtain ⟨hexact, hfirst⟩ := hstop before f after rfl
  obtain ⟨-, hover, hend, hsame⟩ := hfirst ⟨id, 3, 2⟩ hfits (hexact.trans hsize)
  rw [hsame] at hover hend
  refine ⟨hfits, (hall hfits).2.1.trans (by decide +kernel), hsize, hover, ?_, ?_⟩
  · rw [hend]
    decide +kernel
  · rw [hend]
    decide +kernel

end Endpoint

end Demux
