import Demux.Proofs.Session.Provenance

namespace Demux

universe u

/-- What was asked of a session, and what came of it. -/
structure Step where
  call : Call
  events : List Event
  deriving DecidableEq

def Event.overflows (id : StreamId) (e : Event) : Bool :=
  e.overflow?.any (·.id = id)

namespace Step

/-- The step is a frame that opens this stream, and is not its last. -/
def opens (v : Revision) (id : StreamId) : Step → Bool
  | ⟨.frame f, _⟩ => f.opensFor v id && !f.isLast
  | ⟨.close, _⟩ => false

/-- The step ends what is pending for this stream: a last frame, a reset, an overflow, a close. -/
def ends (id : StreamId) : Step → Bool
  | ⟨.frame f, events⟩ => f.endsMessage id || f.resets id || events.any (·.overflows id)
  | ⟨.close, _⟩ => true

/-- One of the steps opens this stream, and none after it ends it. -/
def LeaveOpen (v : Revision) (id : StreamId) (steps : List Step) : Prop :=
  ∃ before t after, steps = before ++ t :: after ∧ t.opens v id = true ∧
    ∀ u ∈ after, u.ends id = false

theorem not_leaveOpen_nil (v : Revision) (id : StreamId) : ¬ LeaveOpen v id [] := by
  rintro ⟨before, t, after, heq, -⟩
  cases before <;> cases heq

theorem leaveOpen_cons {v : Revision} {id : StreamId} {t : Step} {steps : List Step} :
    LeaveOpen v id (t :: steps) ↔
      LeaveOpen v id steps ∨ (t.opens v id = true ∧ ∀ u ∈ steps, u.ends id = false) := by
  constructor
  · rintro ⟨before, u, after, heq, hopens, hafter⟩
    cases before with
    | nil =>
      cases heq
      exact .inr ⟨hopens, hafter⟩
    | cons w before =>
      cases heq
      exact .inl ⟨before, u, after, rfl, hopens, hafter⟩
  · rintro (⟨before, u, after, rfl, hopens, hafter⟩ | ⟨hopens, hafter⟩)
    · exact ⟨t :: before, u, after, rfl, hopens, hafter⟩
    · exact ⟨[], t, steps, rfl, hopens, hafter⟩

end Step

theorem Frame.any_overflows_warnings (f : Frame) (id : StreamId) :
    f.warnings.any (·.overflows id) = false :=
  f.any_warnings fun _ => rfl

theorem Frame.any_overflows_warnings_append (f : Frame) (id : StreamId) (e : Event) :
    (f.warnings ++ [e]).any (·.overflows id) = e.overflows id := by
  rw [List.any_append, f.any_overflows_warnings, List.any_cons, List.any_nil, Bool.or_false,
    Bool.false_or]

theorem Rejects.overflows {v : Revision} {f : Frame} {id k : StreamId} {e : Event}
    (h : Rejects v f id e) : e.overflows k = false := by
  cases h with
  | request | pushWithoutUrl | push | reply => rfl

theorem Step.ends_of_opening {v : Revision} {f : Frame} {id : StreamId} {events : List Event}
    (ho : (f.opening? v).isSome = true) (he : events.any (·.overflows id) = false) :
    (Step.mk (.frame f) events).ends id = false := by
  cases f with
  | synStream | synReply => exact he
  | headers | data | rstStream | settings | ping | goAway | windowUpdate => cases ho

theorem Step.opens_of_opens {v : Revision} {f : Frame} {id : StreamId} {m : Message}
    (h : Opens v f id m) (events : List Event) :
    (Step.mk (.frame f) events).opens v id = !f.isLast := by
  have hopens := Frame.opensFor_iff.2 ⟨m, h⟩
  exact (congrArg (· && !f.isLast) hopens).trans (Bool.true_and _)

theorem Step.opens_of_not_opensFor {v : Revision} {f : Frame} {id : StreamId}
    (h : f.opensFor v id = false) (events : List Event) :
    (Step.mk (.frame f) events).opens v id = false :=
  (congrArg (· && !f.isLast) h).trans (Bool.false_and _)

/-- What is pending after a turn was opened by it, or was pending before and has not ended. -/
theorem Turn.isSome_iff {terms : Terms} {id : StreamId} {f : Frame} {p p' : Slot}
    {events : List Event} (h : Turn terms none id f p p' events) :
    p'.isSome = true ↔ (Step.mk (.frame f) events).opens terms.revision id = true ∨
      (p.isSome = true ∧ (Step.mk (.frame f) events).ends id = false) := by
  cases h with
  | @rejected _ _ event rejects =>
    have hover := (f.any_overflows_warnings_append id event).trans rejects.overflows
    rw [Step.opens_of_not_opensFor rejects.opensFor,
      Step.ends_of_opening rejects.isSome_opening? hover]
    simp
  | @answered _ _ m opens last =>
    have hover := f.any_overflows_warnings_append id (.emitted id (f.sealed m))
    rw [Step.opens_of_opens opens, Step.ends_of_opening opens.isSome_opening? hover, last]
    simp
  | refused _ _ room => cases room
  | kept opens last | replaced opens last =>
    rw [Step.opens_of_opens opens, last]
    simp
  | strayHeaders | strayData | addedHeaders | addedData | endedByHeaders | endedByData
  | overflowed | aborted | idle | forwarded =>
    simp [Step.opens, Step.ends, Frame.opensFor, Frame.opening?, Frame.endsMessage, Frame.resets,
      Event.overflows, Event.overflow?]

namespace Session

variable {τ : Type u} [Store τ]

def history (s : Session τ) : List Call → List Step
  | [] => []
  | c :: cs => ⟨c, (s.call c).2⟩ :: (s.call c).1.history cs

theorem history_cons (s : Session τ) (c : Call) (cs : List Call) :
    s.history (c :: cs) = ⟨c, (s.call c).2⟩ :: (s.call c).1.history cs := rfl

variable [LawfulStore τ]

theorem overflows_of_ne (s : Session τ) {f : Frame} {id : StreamId} (h : f.streamId? ≠ some id) :
    (s.react f).2.any (·.overflows id) = false := by
  rw [List.any_eq_false]
  intro e he
  cases e with
  | overflowed o =>
    have hid := streamId?_of_mem_react he
    intro ho
    cases of_decide_eq_true ho
    exact h hid.symm
  | _ => exact Bool.false_ne_true

theorem ends_of_ne (s : Session τ) {f : Frame} {id : StreamId} (h : f.streamId? ≠ some id) :
    (Step.mk (.frame f) (s.call (.frame f)).2).ends id = false := by
  have hdisplaces := Frame.displaces_of_ne (v := s.revision) h
  rw [Frame.displaces, Frame.opensFor_of_ne h, Bool.false_and, Bool.or_false] at hdisplaces
  rw [Step.ends, hdisplaces]
  exact s.overflows_of_ne h

theorem isPending_call {s : Session τ} (hb : Store.bounds s.pending = []) (c : Call)
    (id : StreamId) :
    (s.call c).1.isPending id = true ↔ (Step.mk c (s.call c).2).opens s.revision id = true ∨
      (s.isPending id = true ∧ (Step.mk c (s.call c).2).ends id = false) := by
  cases c with
  | close =>
    have hnone : (s.call .close).1.isPending id = false := by
      rw [isPending_eq]
      exact congrArg Option.isSome (s.pending?_close id)
    simp [hnone, Step.opens, Step.ends]
  | frame f =>
    by_cases hid : f.streamId? = some id
    · have hturn := s.turn hid
      rw [Store.refusal?_of_bounds_eq_nil hb] at hturn
      exact hturn.isSome_iff
    · rw [Step.opens_of_not_opensFor (Frame.opensFor_of_ne hid), s.ends_of_ne hid, isPending_eq,
        isPending_eq]
      simp [call, s.pending?_react_of_ne hid]

theorem isPending_calls {s : Session τ} (hb : Store.bounds s.pending = []) (cs : List Call)
    (id : StreamId) :
    (s.calls cs).1.isPending id = true ↔ Step.LeaveOpen s.revision id (s.history cs) ∨
      (s.isPending id = true ∧ ∀ t ∈ s.history cs, t.ends id = false) := by
  -- from the front: a message that is pending at first is like one opened by the call before
  induction cs generalizing s with
  | nil => simp [history, Step.not_leaveOpen_nil]
  | cons c cs ih =>
    have hrest := ih ((s.bounds_call c).trans hb)
    rw [s.revision_call c, isPending_call hb c id] at hrest
    rw [calls_cons, history_cons, hrest, Step.leaveOpen_cons, List.forall_mem_cons, or_and_right,
      and_assoc, or_assoc]

theorem isPending_react_of_endsMessage {s : Session τ} (hb : Store.bounds s.pending = [])
    {f : Frame} {id : StreamId} (hf : f.endsMessage id = true) :
    (s.react f).1.isPending id = false := by
  have hopens : f.opensFor s.revision id = false := by
    cases f with
    | headers | data => exact Bool.and_false _
    | synStream | synReply | rstStream | settings | ping | goAway | windowUpdate => cases hf
  have hends : (Step.mk (.frame f) (s.react f).2).ends id = true := by
    rw [Step.ends, hf]
    rfl
  rw [Bool.eq_false_iff]
  intro hp
  rcases (isPending_call hb (.frame f) id).1 hp with ho | ⟨-, hstays⟩
  · cases (Step.opens_of_not_opensFor hopens _).symm.trans ho
  · cases hends.symm.trans hstays

theorem pending?_react_of_last_opening (s : Session τ) {f : Frame}
    (ho : (f.opening? s.revision).isSome = true) (hlast : f.isLast = true) (id : StreamId) :
    (s.react f).1.pending? id = s.pending? id := by
  by_cases hid : f.streamId? = some id
  · obtain ⟨opening, ho⟩ := Option.isSome_iff_exists.1 ho
    rw [s.pending?_react hid, Slot.react_of_opening _ _ _ hid ho, hlast]
    cases opening <;> rfl
  · exact s.pending?_react_of_ne hid

/-- Pending are the streams that were opened by a frame not their last and have not ended since. -/
theorem isPending_iff_opened {s : Session τ} (hs : Store.isEmpty s.pending = true)
    (hb : Store.bounds s.pending = []) (cs : List Call) (id : StreamId) :
    let r := s.calls cs
    (r.1.isPending id = true ↔ ∃ before t after, s.history cs = before ++ t :: after ∧
      t.opens s.revision id = true ∧ ∀ u ∈ after, u.ends id = false) ∧
    (∀ f : Frame, f.endsMessage id = true → (r.1.react f).1.isPending id = false) ∧
    ∀ f : Frame, (f.opening? s.revision).isSome = true → f.isLast = true →
      (r.1.react f).1.pending? id = r.1.pending? id := by
  intro r
  refine ⟨?_, ?_, ?_⟩
  · refine (isPending_calls hb cs id).trans ?_
    rw [isPending_of_isEmpty hs]
    simp [Step.LeaveOpen]
  · intro f hf
    exact isPending_react_of_endsMessage ((s.bounds_calls cs).trans hb) hf
  · intro f ho hlast
    rw [← s.revision_calls cs] at ho
    exact r.1.pending?_react_of_last_opening ho hlast id

theorem isPending_iff_opened_after_reset :
    let id := StreamId.ofNat 1
    let s : Session TreeStore := ⟨⟨.three, 2, by decide⟩, ∅⟩
    let reply (last : Bool) := Call.frame (.synReply id (Fields.replyBlock .three "200 OK") last)
    let cs := [reply false, .frame (.data id ⟨#[1, 2, 3]⟩ false), reply false,
      .frame (.rstStream id .protocolError), reply false, reply true,
      .frame (.headers (.ofNat 3) ∅ true)]
    Store.isEmpty s.pending = true ∧ Store.bounds s.pending = [] ∧
      (s.calls cs).1.isPending id = true ∧
        ((s.calls cs).1.react (.data id .empty true)).1.isPending id = false := by
  intro id s reply cs
  have hs : Store.isEmpty s.pending = true := by decide +kernel
  have hb : Store.bounds s.pending = [] := rfl
  obtain ⟨hiff, hlast, -⟩ := isPending_iff_opened hs hb cs id
  let emitted : Message := ⟨.reply .ok, .http11,
    ⟨[("X-SPDY-Stream-ID", "1"), ("Content-Length", "0")]⟩, .empty⟩
  have hhistory : s.history cs = (s.history cs).take 4 ++ ⟨reply false, []⟩ ::
      [⟨reply true, [.emitted id emitted]⟩,
        ⟨.frame (.headers (.ofNat 3) ∅ true), [.strayHeaders (.ofNat 3)]⟩] := by
    decide +kernel
  have hpending := hiff.2 ⟨_, _, _, hhistory, by decide +kernel, by decide +kernel⟩
  exact ⟨hs, hb, hpending, hlast _ (by decide +kernel)⟩

theorem pending_after_last_reply :
    let id := StreamId.ofNat 1
    let s : Session TreeStore := ⟨⟨.three, 16, by decide⟩, ∅⟩
    let reply (last : Bool) := Frame.synReply id (Fields.replyBlock .three "200 OK") last
    Store.isEmpty s.pending = true ∧ Store.bounds s.pending = [] ∧ (reply true).isLast = true ∧
      (s.calls ([reply false, reply true].map .frame)).1.isPending id = true := by
  decide +kernel

end Session

end Demux
