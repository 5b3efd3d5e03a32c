import Demux.Proofs.Session.Batch
import Demux.Proofs.Session.Delivery
import Demux.Proofs.Session.Notice

namespace Demux

universe u

namespace Frame

theorem remarks_warnings (f : Frame) : f.warnings.filterMap Event.remark? = [] :=
  f.filterMap_warnings fun _ => rfl

theorem remarks_warnings_append (f : Frame) (events : List Event) :
    (f.warnings ++ events).filterMap Event.remark? = events.filterMap Event.remark? := by
  rw [List.filterMap_append, f.remarks_warnings, List.nil_append]

theorem details_warnings (f : Frame) :
    (Event.notices f.warnings).filter (·.isAt .debug) = [] := by
  rw [List.filter_eq_nil_iff]
  intro n hn
  obtain ⟨e, he, hn⟩ := List.mem_filterMap.1 hn
  obtain ⟨id, -, rfl⟩ := eq_of_mem_warnings he
  cases hn
  exact Bool.false_ne_true

end Frame

namespace Slot

/-- What to remark on a frame: it is stray, resets a pending stream, or opens it over again. -/
def remark? (v : Revision) (id : StreamId) (p : Slot) (f : Frame) : Option Topic :=
  match p with
  | none => if f.isPieceOf id then some .stray else none
  | some _ =>
    if f.resets id then some .reset
    else if f.opensFor v id && !f.isLast then some .replacement
    else none

variable {v : Revision} {id : StreamId} {f : Frame}

theorem remark?_of_opening (h : (f.opening? v).isSome = true) (p : Slot) :
    remark? v id p f =
      if p.isSome && f.opensFor v id && !f.isLast then some .replacement else none := by
  cases f with
  | synStream | synReply => cases p <;> rfl
  | headers | data | rstStream | settings | ping | goAway | windowUpdate => cases h

end Slot

theorem Turn.remarks {terms : Terms} {full : Option Full} {id : StreamId} {f : Frame} {p p' : Slot}
    {events : List Event} (h : Turn terms full id f p p' events)
    (hfull : ∀ why, full = some why → p = none) :
    events.filterMap Event.remark? = (Slot.remark? terms.revision id p f).toList := by
  cases h with
  | @rejected _ _ event rejects =>
    rw [Slot.remark?_of_opening rejects.isSome_opening?, rejects.opensFor, Bool.and_false,
      f.remarks_warnings_append]
    cases rejects with
    | request | pushWithoutUrl | push | reply => rfl
  | answered opens last =>
    rw [Slot.remark?_of_opening opens.isSome_opening?, last, Bool.not_true, Bool.and_false,
      f.remarks_warnings_append]
    rfl
  | refused opens last room =>
    rw [Slot.remark?_of_opening opens.isSome_opening?, hfull _ room,
      f.remarks_warnings_append]
    rfl
  | kept opens last =>
    rw [Slot.remark?_of_opening opens.isSome_opening?, f.remarks_warnings]
    rfl
  | replaced opens last =>
    rw [Slot.remark?_of_opening opens.isSome_opening?, Frame.opensFor_iff.2 ⟨_, opens⟩, last,
      f.remarks_warnings_append]
    rfl
  | @forwarded p =>
    cases p with
    | none => rfl
    | some m => simp [Slot.remark?, Event.remark?, Event.topic?, Frame.resets, Frame.opensFor,
        Frame.opening?]
  | strayHeaders | strayData | addedHeaders | addedData | endedByHeaders | endedByData
  | overflowed | aborted | idle =>
    simp [Slot.remark?, Event.remark?, Event.topic?, Option.filter, Topic.isRemark,
      Frame.isPieceOf, Frame.resets, Frame.opensFor, Frame.opening?]

namespace Session

section Remark

variable {τ : Type u} [Store τ]

def remark? (s : Session τ) (f : Frame) : Option Topic :=
  f.streamId?.bind fun id => Slot.remark? s.revision id (s.pending? id) f

end Remark

variable {τ : Type u} [Store τ] [LawfulStore τ]

theorem remarks_react (s : Session τ) (f : Frame) :
    (s.react f).2.filterMap Event.remark? = (s.remark? f).toList := by
  rw [remark?]
  cases hid : f.streamId? with
  | none =>
    rw [s.react_of_streamId?_eq_none hid]
    rfl
  | some id => exact (s.turn hid).remarks fun why => pending?_of_refusal?

theorem countP_remarks_react (s : Session τ) (f : Frame) (topic : Topic) :
    ((s.react f).2.filterMap Event.remark?).countP (· = topic) =
      if s.remark? f = some topic then 1 else 0 := by
  rw [remarks_react]
  cases s.remark? f with
  | none => rfl
  | some t => simp [List.countP_cons]

omit [LawfulStore τ] in
theorem countP_remarks_close (s : Session τ) {topic : Topic} (h : topic ≠ .closing) :
    (s.close.2.2.filterMap Event.remark?).countP (· = topic) = 0 := by
  simp only [close]
  split
  · rfl
  · simpa [Event.remark?, Event.topic?, Option.filter, Topic.isRemark] using h.symm

theorem countP_remarks_calls (s : Session τ) (cs : List Call) {topic : Topic}
    (h : topic ≠ .closing) :
    ((s.calls cs).2.filterMap Event.remark?).countP (· = topic) =
      (s.encounters cs).countP fun t => t.1.remark? t.2 = some topic := by
  induction cs generalizing s with
  | nil => rfl
  | cons c cs ih =>
    rw [calls_cons, List.filterMap_append, List.countP_append, ih]
    cases c with
    | frame f =>
      rw [call, countP_remarks_react, encounters, List.countP_cons, Nat.add_comm]
      simp only [decide_eq_true_eq]
    | close =>
      rw [call, s.countP_remarks_close h, Nat.zero_add]
      rfl

theorem exists_told (s : Session τ) (f : Frame) :
    ∃ told, List.Forall₂ (Notice.Announces s.revision) told (s.answers f) ∧
      (Event.notices (s.react f).2).filter (·.isAt .warning) =
        told ++ (Event.firstOverflow? (s.react f).2).toList.filterMap
          fun o => (Event.overflowed o).notice? := by
  cases h : Event.firstOverflow? (s.react f).2 with
  | none =>
    have hannounced := Event.announces_of_fits (Event.firstOverflow?_eq_none_iff.1 h) s.revision
    exact ⟨_, hannounced, (List.append_nil _).symm⟩
  | some o =>
    rw [answers, (react_of_firstOverflow? h).2]
    exact ⟨[], .nil, rfl⟩

theorem length_details_react_le (s : Session τ) (f : Frame) :
    ((Event.notices (s.react f).2).filter (·.isAt .debug)).length ≤ 1 := by
  obtain ⟨outcome, heq, hlen⟩ := s.exists_outcome_react f
  rw [heq, Event.notices_append, List.filter_append, f.details_warnings, List.nil_append]
  calc
    ((Event.notices outcome).filter (·.isAt .debug)).length ≤ (Event.notices outcome).length :=
      List.length_filter_le _ _
    _ ≤ outcome.length := List.length_filterMap_le _ _
    _ ≤ 1 := hlen

theorem countP_isOverflow_feedAll (s : Session τ) (fs : List Frame) :
    (s.feedAll fs).2.countP Event.isOverflow =
      (Event.firstOverflow? (s.feedAll fs).2).isSome.toNat := by
  rw [Event.isSome_firstOverflow?]
  induction fs generalizing s with
  | nil => rfl
  | cons f fs ih =>
    rw [feedAll_cons]
    cases h : (s.react f).2.any Event.isOverflow with
    | true =>
      rw [if_pos rfl, h]
      rw [← Event.isSome_firstOverflow?] at h
      obtain ⟨o, ho⟩ := Option.isSome_iff_exists.1 h
      rw [(react_of_firstOverflow? ho).2]
      rfl
    | false =>
      have hnone : (s.react f).2.countP Event.isOverflow = 0 :=
        List.countP_eq_zero.2 (List.any_eq_false.1 h)
      rw [if_neg Bool.false_ne_true, List.countP_append, List.any_append, hnone, h, ih,
        Nat.zero_add, Bool.false_or]

end Session

namespace Outcome

def notices (o : Outcome) : List Notice :=
  Event.notices o.events

theorem flatMap_notices (os : List Outcome) :
    os.flatMap notices = Event.notices (allEvents os) := by
  rw [Event.notices, allEvents, List.filterMap_flatMap]
  rfl

end Outcome

namespace Endpoint

variable {τ : Type u} [Store τ]

/-- What a frame leaves in the log, if it comes to `r`. -/
structure Logs (e : Endpoint τ) (f : Frame) (r : Endpoint τ × Outcome) : Prop where
  answers : r.1.sink.outbound = e.sink.outbound ++ e.session.answers f
  warnings : ∃ told, List.Forall₂ (Notice.Announces e.session.revision) told (e.session.answers f) ∧
    r.2.notices.filter (·.isAt .warning) =
      told ++ r.2.overflow?.toList.filterMap fun o => (Event.overflowed o).notice?
  length_warnings : e.sink.outbound.length + (r.2.notices.filter (·.isAt .warning)).length =
    r.1.sink.outbound.length + r.2.overflow?.toList.length
  length_details : e.sink.messages.length + (r.2.notices.filter (·.isAt .debug)).length =
    r.1.sink.messages.length + (e.session.remark? f).toList.length
  length_details_le : (r.2.notices.filter (·.isAt .debug)).length ≤ 1

variable [LawfulStore τ]

theorem logs (e : Endpoint τ) (f : Frame) : e.Logs f (e.perform (.frame f)) := by
  rw [perform_frame]
  obtain ⟨told, hannounced, hwarnings⟩ := e.session.exists_told f
  refine ⟨rfl, ⟨told, hannounced, hwarnings⟩, ?_, ?_, e.session.length_details_react_le f⟩
  · simp only [Outcome.notices, Outcome.overflow?]
    rw [hwarnings, Session.sink_react, Sink.append_def, List.length_append, List.length_append,
      hannounced.length_eq, Nat.add_assoc]
    cases Event.firstOverflow? (e.session.react f).2 <;> rfl
  · simp only [Outcome.notices]
    rw [Event.length_details _ e.session.revision, Session.remarks_react, Sink.messages_append,
      List.length_append, Nat.add_assoc]

theorem countP_isOverflow_perform (e : Endpoint τ) (c : Command) :
    (e.perform c).2.events.countP Event.isOverflow = (e.perform c).2.overflow?.isSome.toNat := by
  cases c with
  | frame f => exact e.session.countP_isOverflow_feedAll [f]
  | frames fs => exact e.session.countP_isOverflow_feedAll fs
  | close =>
    simp only [perform, Session.close]
    split <;> rfl
  | takeInbound | takeOutbound => rfl

theorem countP_isOverflow_run (e : Endpoint τ) (cs : List Command) :
    (Outcome.allEvents (e.run cs).2).countP Event.isOverflow =
      (e.run cs).2.countP (·.overflow?.isSome) := by
  induction cs generalizing e with
  | nil => rfl
  | cons c cs ih =>
    rw [run_cons, Outcome.allEvents_cons, List.countP_append, countP_isOverflow_perform, ih,
      List.countP_cons, Nat.add_comm]
    cases (e.perform c).2.overflow?.isSome <;> rfl

omit [LawfulStore τ] in
theorem notices_close (e : Endpoint τ) :
    let closed := (e.perform .close).2
    let listed := "[" ++ ", ".intercalate (closed.ids.map fun id =>
      "StreamId(" ++ toString id.number ++ ")") ++ "]"
    closed.notices = if closed.ids = [] then [] else
      [⟨.debug, "dropping pending streams on close: count=" ++ toString closed.ids.length ++
        ", stream_ids=" ++ listed⟩] := by
  simp only [perform, Session.close, Outcome.notices, List.isEmpty_iff]
  by_cases hnone : Store.ids e.session.pending = []
  · rw [if_pos hnone, if_pos hnone]
    rfl
  · rw [if_neg hnone, if_neg hnone]
    rfl

/-- Every decision has its record, and the records of a run tell how often each came about. -/
theorem log_accounts (e : Endpoint τ) :
    let closed := (e.perform .close).2
    let listed := "[" ++ ", ".intercalate (closed.ids.map fun id =>
      "StreamId(" ++ toString id.number ++ ")") ++ "]"
    (∀ f, e.Logs f (e.perform (.frame f))) ∧
    (∀ id, id ∈ closed.ids ↔ e.session.isPending id = true) ∧
    closed.notices = (if closed.ids = [] then [] else
      [⟨.debug, "dropping pending streams on close: count=" ++ toString closed.ids.length ++
        ", stream_ids=" ++ listed⟩]) ∧
    ∀ cs,
      let r := e.run cs
      let told := Notice.tally (r.2.flatMap Outcome.notices)
      let given := Outcome.allTaken r.2 ++ r.1.sink
      let met := e.session.encounters (e.session.callsOf cs)
      let remarked (topic : Topic) := met.countP fun t => t.1.remark? t.2 = some topic
      given.outbound.length = e.sink.outbound.length + told .control ∧
        given.messages.length = e.sink.messages.length + told .message ∧
        r.2.countP (·.overflow?.isSome) = told .overflow ∧
        remarked .stray = told .stray ∧ remarked .reset = told .reset ∧
        remarked .replacement = told .replacement := by
  intro closed listed
  refine ⟨e.logs, fun id => Session.mem_ids_close, e.notices_close, ?_⟩
  intro cs r told given met remarked
  have htold (topic : Topic) :
      told topic = (Outcome.allEvents r.2).countP (·.topic? = some topic) := by
    rw [← Event.tally_notices, ← Outcome.flatMap_notices]
  have hgiven : given = _ := e.taken_run cs
  have hremarked {topic : Topic} (hremark : topic.isRemark = true) (hclosing : topic ≠ .closing) :
      remarked topic = told topic := by
    rw [htold, Event.countP_remark hremark, (e.session_run cs).2]
    exact (e.session.countP_remarks_calls _ hclosing).symm
  refine ⟨?_, ?_, ?_, hremarked rfl nofun, hremarked rfl nofun, hremarked rfl nofun⟩
  · rw [hgiven, htold, Event.countP_control _ e.session.revision]
    exact List.length_append
  · rw [hgiven, htold, Event.countP_message _ e.session.revision, Sink.messages_append,
      List.length_append]
  · rw [htold, Event.countP_overflow, countP_isOverflow_run]

theorem log_accounts_of_six_commands :
    let id := StreamId.ofNat 1
    let e : Endpoint (Bounded TreeStore) := ⟨⟨⟨.three, 2, by decide⟩, ⟨∅, 2⟩⟩, ⟨[], []⟩⟩
    let reply (id : StreamId) := Frame.synReply id (Fields.replyBlock .three "200 OK") false
    let push := Frame.synStream (.ofNat 2) .zero 0 (Fields.pushBlock .three "200 OK" "/a") false
    let cs := [.frame (reply (.ofNat 3)), .frame (reply id), .frame push,
      .frames [reply id, .data id ⟨#[1, 2, 3]⟩ false, .headers id ∅ false],
      .frames [.headers id ∅ false, reply id, .rstStream id .protocolError, reply id,
        .data id ⟨#[1]⟩ true],
      Command.frame (reply id)]
    let notices : List Notice :=
      [⟨.warning, "pushed stream without associated stream: stream_id=2"⟩,
        ⟨.warning, "refusing stream: stream_id=2, error=stream table full: 2 streams pending"⟩,
        ⟨.debug, "replaced pending message: stream_id=1"⟩,
        ⟨.warning, "discarding oversized message: stream_id=1, " ++
          "error=HTTP content length exceeded 2 bytes."⟩,
        ⟨.debug, "discarding HEADERS for unknown stream: stream_id=1"⟩,
        ⟨.debug, "discarding pending message for reset stream: stream_id=1, " ++
          "status=PROTOCOL_ERROR"⟩,
        ⟨.debug, "emitting message: stream_id=1, request=false, content_length=1"⟩]
    (e.run cs).2.flatMap Outcome.notices = notices ∧
      ((e.run cs).1.perform .close).2.notices =
        [⟨.debug, "dropping pending streams on close: count=2, " ++
          "stream_ids=[StreamId(1), StreamId(3)]"⟩] ∧
      (Outcome.allTaken (e.run cs).2 ++ (e.run cs).1.sink).outbound.length = 2 ∧
      (Outcome.allTaken (e.run cs).2 ++ (e.run cs).1.sink).messages.length = 1 ∧
      (e.run cs).2.countP (·.overflow?.isSome) = 1 := by
  intro id e reply push cs notices
  have hnotices : (e.run cs).2.flatMap Outcome.notices = notices := by decide +kernel
  have htopics : notices.filterMap Notice.topic? =
      [.control, .control, .replacement, .overflow, .stray, .reset, .message] := by
    decide +kernel
  obtain ⟨-, -, -, hrun⟩ := log_accounts e
  obtain ⟨hcontrol, hmessage, hoverflow, -⟩ := hrun cs
  obtain ⟨-, -, hclosed, -⟩ := log_accounts (e.run cs).1
  rw [Notice.tally, hnotices, htopics] at hcontrol hmessage hoverflow
  exact ⟨hnotices, hclosed.trans (by decide +kernel), hcontrol, hmessage, hoverflow⟩

end Endpoint

end Demux
