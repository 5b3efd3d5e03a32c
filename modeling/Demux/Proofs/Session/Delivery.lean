import Demux.Frame.Block
import Demux.Proofs.Session.Provenance
import Demux.Session.Endpoint

namespace Demux

universe u

namespace Frame

/-- The frame has nothing to do with messages, and goes on to the application. -/
def passesThrough : Frame → Bool
  | settings .. | ping _ | goAway .. | windowUpdate .. => true
  | synStream .. | synReply .. | headers .. | data .. | rstStream .. => false

end Frame

def Inbound.frame? : Inbound → Option Frame
  | message _ => none
  | frame f => some f

def Call.frame? : Call → Option Frame
  | frame f => some f
  | close => none

theorem Turn.exists_outcome {terms : Terms} {full : Option Full} {id : StreamId} {f : Frame}
    {p p' : Slot} {events : List Event} (h : Turn terms full id f p p' events) :
    ∃ outcome, events = f.warnings ++ outcome ∧ outcome.length ≤ 1 := by
  cases h with
  | rejected | answered | refused | replaced => exact ⟨_, rfl, Nat.le_refl 1⟩
  | kept => exact ⟨[], (List.append_nil _).symm, Nat.zero_le 1⟩
  | strayHeaders | strayData | endedByHeaders | endedByData | overflowed | aborted | forwarded =>
    exact ⟨_, rfl, Nat.le_refl 1⟩
  | addedHeaders | addedData | idle => exact ⟨[], rfl, Nat.zero_le 1⟩

namespace Session

variable {τ : Type u} [Store τ]

/-- What a frame gives to the application, if it does. -/
def delivery? (s : Session τ) (f : Frame) : Option Inbound :=
  (s.react f).2.findSome? Event.inbound?

/-- What the peer is answered for a frame. -/
def answers (s : Session τ) (f : Frame) : List Frame :=
  (s.react f).2.filterMap (Event.outbound? s.revision)

/-- The frames among the calls, each with the session as the frame finds it. -/
def encounters (s : Session τ) : List Call → List (Session τ × Frame)
  | [] => []
  | .frame f :: cs => (s, f) :: (s.react f).1.encounters cs
  | .close :: cs => s.close.1.encounters cs

/-- `Completes s id f m`: in session `s`, frame `f` brings the last of `m` for stream `id`. -/
inductive Completes (s : Session τ) (id : StreamId) : Frame → Message → Prop where
  | opened {f : Frame} {m : Message} (opens : Opens s.revision f id m) (last : f.isLast = true) :
      Completes s id f (f.sealed m)
  | ended {f : Frame} {m whole : Message} (pending : s.pending? id = some m)
      (ends : f.endsMessage id = true)
      (grown : whole = m.extend (f.fieldsFor id) (f.bytesFor id)) :
      Completes s id f (whole.setContentLength whole.body.size)

/-- What a frame adds to the sinks, whatever they hold. -/
structure Delivers (s : Session τ) (f : Frame) : Prop where
  appends (k : Sink) :
    s.feedInto k [f] = ((s.react f).1, k ++ ⟨(s.delivery? f).toList, s.answers f⟩, (s.react f).2)
  message (m : Message) (h : s.delivery? f = some (.message m)) :
    f.isLast = true ∧ ∃ id, f.streamId? = some id ∧ s.Completes id f m
  frame (g : Frame) : s.delivery? f = some (.frame g) ↔ f.passesThrough = true ∧ g = f
  untouched (h : f.passesThrough = true) : (s.react f).1 = s
  length_answers : (s.answers f).length ≤ 2
  addressed (g : Frame) (h : g ∈ s.answers f) :
    ∃ id, f.streamId? = some id ∧ g.streamId? = some id

theorem Completes.streamId? {s : Session τ} {id : StreamId} {f : Frame} {m : Message}
    (h : s.Completes id f m) : f.streamId? = some id := by
  cases h with
  | opened opens => exact opens.streamId?
  | ended _ ends => exact Frame.streamId?_of_isPieceOf (Frame.endsMessage_iff.1 ends).1

theorem Completes.isLast {s : Session τ} {id : StreamId} {f : Frame} {m : Message}
    (h : s.Completes id f m) : f.isLast = true := by
  cases h with
  | opened _ last => exact last
  | ended _ ends => exact (Frame.endsMessage_iff.1 ends).2

theorem react_of_passesThrough (s : Session τ) {f : Frame} (h : f.passesThrough = true) :
    s.react f = (s, [.forwarded f]) := by
  cases f with
  | settings | ping | goAway | windowUpdate => rfl
  | synStream | synReply | headers | data | rstStream => cases h

theorem frames_encounters (s : Session τ) (cs : List Call) :
    (s.encounters cs).map Prod.snd = cs.filterMap Call.frame? := by
  induction cs generalizing s with
  | nil => rfl
  | cons c cs ih =>
    cases c with
    | frame f => exact congrArg (f :: ·) (ih (s.react f).1)
    | close => exact ih s.close.1

theorem callsOf_filter (s : Session τ) (cs : List Command) :
    s.callsOf (cs.filter (!·.isTake)) = s.callsOf cs := by
  induction cs generalizing s with
  | nil => rfl
  | cons c cs ih =>
    cases c with
    | frame | frames | close => rw [List.filter_cons_of_pos rfl, callsOf, callsOf, ih]
    | takeInbound | takeOutbound =>
      rw [List.filter_cons_of_neg Bool.false_ne_true]
      exact ih s

variable [LawfulStore τ]

theorem exists_outcome_react (s : Session τ) (f : Frame) :
    ∃ outcome, (s.react f).2 = f.warnings ++ outcome ∧ outcome.length ≤ 1 := by
  cases hid : f.streamId? with
  | none =>
    rw [s.react_of_streamId?_eq_none hid]
    cases f with
    | settings | ping | goAway => exact ⟨_, rfl, Nat.le_refl 1⟩
    | synStream | synReply | headers | data | rstStream | windowUpdate => cases hid
  | some id => exact (s.turn hid).exists_outcome

theorem inbound_react (s : Session τ) (f : Frame) :
    (s.react f).2.filterMap Event.inbound? = (s.delivery? f).toList := by
  obtain ⟨outcome, heq, hlen⟩ := s.exists_outcome_react f
  -- warnings are for the peer, so all that the application gets is the one outcome
  have hinbound : (s.react f).2.filterMap Event.inbound? = outcome.filterMap Event.inbound? := by
    rw [heq, List.filterMap_append, f.inbound_warnings, List.nil_append]
  have hle := Nat.le_trans (List.length_filterMap_le Event.inbound? outcome) hlen
  rw [delivery?, ← List.head?_filterMap, hinbound]
  cases hl : outcome.filterMap Event.inbound? with
  | nil => rfl
  | cons i rest =>
    rw [hl, List.length_cons] at hle
    rw [List.eq_nil_of_length_eq_zero (by omega : rest.length = 0)]
    rfl

theorem sink_react (s : Session τ) (f : Frame) :
    Sink.ofEvents s.revision (s.react f).2 = ⟨(s.delivery? f).toList, s.answers f⟩ := by
  rw [← inbound_react]
  rfl

theorem length_answers_le (s : Session τ) (f : Frame) : (s.answers f).length ≤ 2 := by
  obtain ⟨outcome, heq, hlen⟩ := s.exists_outcome_react f
  have hwarnings := f.length_warnings_le
  calc
    (s.answers f).length ≤ (s.react f).2.length := List.length_filterMap_le _ _
    _ = f.warnings.length + outcome.length := by rw [heq, List.length_append]
    _ ≤ 2 := by omega

theorem completes_of_emitted {s : Session τ} {f : Frame} {id : StreamId} {m : Message}
    (h : .emitted id m ∈ (s.react f).2) : s.Completes id f m := by
  obtain ⟨-, heq⟩ | ⟨k, -, hcause⟩ := cause_of_mem_react h
  · cases heq
  · cases hcause.streamId?
    generalize hp : s.pending? id = p at hcause
    cases hcause with
    | rejected rejects => cases rejects
    | answered opens last => exact .opened opens last
    | @endedByHeaders m block =>
      have hends : (Frame.headers id block true).endsMessage id = true := by
        simp [Frame.endsMessage]
      exact .ended hp hends (Frame.extend_of_headers id block true m).symm
    | @endedByData m payload fits =>
      have hends : (Frame.data id payload true).endsMessage id = true := by
        simp [Frame.endsMessage]
      exact .ended hp hends (Frame.extend_of_data id payload true m).symm

theorem forwarded_mem_react {s : Session τ} {f g : Frame} (h : .forwarded g ∈ (s.react f).2) :
    f.passesThrough = true ∧ g = f := by
  obtain ⟨hid, heq⟩ | ⟨id, -, hcause⟩ := cause_of_mem_react h
  · cases heq
    cases f with
    | settings | ping | goAway => exact ⟨rfl, rfl⟩
    | synStream | synReply | headers | data | rstStream | windowUpdate => cases hid
  · generalize s.pending? id = p at hcause
    cases hcause with
    | rejected rejects => cases rejects
    | forwarded => exact ⟨rfl, rfl⟩

theorem delivery?_eq_frame_iff {s : Session τ} {f g : Frame} :
    s.delivery? f = some (.frame g) ↔ f.passesThrough = true ∧ g = f := by
  constructor
  · intro h
    obtain ⟨e, he, hi⟩ := List.exists_of_findSome?_eq_some h
    cases Event.eq_forwarded_of_inbound? hi
    exact forwarded_mem_react he
  · rintro ⟨h, rfl⟩
    rw [delivery?, s.react_of_passesThrough h]
    rfl

theorem delivers (s : Session τ) (f : Frame) : s.Delivers f where
  appends k := by
    rw [← s.sink_react, ← s.feedAll_singleton]
    rfl
  message m h := by
    obtain ⟨e, he, hi⟩ := List.exists_of_findSome?_eq_some h
    obtain ⟨id, rfl⟩ := Event.eq_emitted_of_inbound? hi
    have hcompletes := completes_of_emitted he
    exact ⟨hcompletes.isLast, id, hcompletes.streamId?, hcompletes⟩
  frame g := delivery?_eq_frame_iff
  untouched h := congrArg Prod.fst (s.react_of_passesThrough h)
  length_answers := s.length_answers_le f
  addressed g h := by
    obtain ⟨e, he, hg⟩ := List.mem_filterMap.1 h
    have hid := (Event.streamId?_of_outbound? hg).trans (streamId?_of_mem_react he)
    cases e with
    | badRequest | badReply | badPush | pushWithoutStream | pushWithoutUrl | refused =>
      cases hg
      exact ⟨_, hid.symm, rfl⟩
    | _ => cases hg

theorem sink_calls (s : Session τ) (cs : List Call) :
    Sink.ofEvents s.revision (s.calls cs).2 =
      ⟨(s.encounters cs).filterMap fun t => t.1.delivery? t.2,
        (s.encounters cs).flatMap fun t => t.1.answers t.2⟩ := by
  induction cs generalizing s with
  | nil => rfl
  | cons c cs ih =>
    have hrest := ih (s.call c).1
    rw [s.revision_call c] at hrest
    rw [calls_cons, Sink.ofEvents_append, hrest]
    cases c with
    | frame f =>
      rw [call, sink_react, encounters, List.filterMap_cons, List.flatMap_cons]
      cases s.delivery? f <;> rfl
    | close =>
      rw [call, sink_close, Sink.empty_append]
      rfl

theorem frame?_delivery? (s : Session τ) (f : Frame) :
    (s.delivery? f).bind Inbound.frame? = Option.guard Frame.passesThrough f := by
  cases hf : f.passesThrough with
  | true =>
    rw [delivery?_eq_frame_iff.2 ⟨hf, rfl⟩, Option.guard, hf]
    rfl
  | false =>
    rw [Option.guard, hf, if_neg Bool.false_ne_true, Option.bind_eq_none_iff]
    rintro (m | g) hd
    · rfl
    · rw [(delivery?_eq_frame_iff.1 hd).1] at hf
      cases hf

theorem forwarded_encounters (s : Session τ) (cs : List Call) :
    ((s.encounters cs).filterMap fun t => t.1.delivery? t.2).filterMap Inbound.frame? =
      (cs.filterMap Call.frame?).filter Frame.passesThrough := by
  rw [List.filterMap_filterMap, ← s.frames_encounters, ← List.filterMap_eq_filter,
    List.filterMap_map]
  exact congrArg (List.filterMap · _) (funext fun t => t.1.frame?_delivery? t.2)

end Session

namespace Endpoint

variable {τ : Type u} [Store τ]

theorem allTaken_of_no_takes {cs : List Command} (h : ∀ c ∈ cs, c.isTake = false)
    (e : Endpoint τ) : Outcome.allTaken (e.run cs).2 = ∅ := by
  induction cs generalizing e with
  | nil => rfl
  | cons c cs ih =>
    obtain ⟨hc, hcs⟩ := List.forall_mem_cons.1 h
    have hnone : (e.perform c).2.taken = ∅ := by
      cases c with
      | frame | frames | close => rfl
      | takeInbound | takeOutbound => cases hc
    rw [run_cons, Outcome.allTaken_cons, hnone, ih hcs, Sink.append_empty]

theorem sink_run_of_no_takes {cs : List Command} (h : ∀ c ∈ cs, c.isTake = false)
    (e : Endpoint τ) :
    (e.run cs).1.sink = e.sink ++ Sink.ofEvents e.session.revision
      (e.session.calls (e.session.callsOf cs)).2 := by
  have htaken := e.taken_run cs
  rw [allTaken_of_no_takes h, Sink.empty_append, (e.session_run cs).2] at htaken
  exact htaken

variable [LawfulStore τ]

/-- The sinks get what each frame gives, in the order of the frames, whenever they are emptied. -/
theorem delivered_in_order :
    (∀ (s : Session τ) (f : Frame), s.Delivers f) ∧
    ∀ (e : Endpoint τ) (cs : List Command),
      let r := e.run cs
      let plain := e.run (cs.filter (!·.isTake))
      let calls := e.session.callsOf cs
      let met := e.session.encounters calls
      let given := met.filterMap fun t => t.1.delivery? t.2
      Outcome.allTaken r.2 ++ r.1.sink = plain.1.sink ∧
        r.1.session = plain.1.session ∧ Outcome.allEvents r.2 = Outcome.allEvents plain.2 ∧
        plain.1.sink = e.sink ++ ⟨given, met.flatMap fun t => t.1.answers t.2⟩ ∧
        met.map Prod.snd = calls.filterMap Call.frame? ∧
        given.filterMap Inbound.frame? =
          (calls.filterMap Call.frame?).filter Frame.passesThrough := by
  refine ⟨Session.delivers, ?_⟩
  intro e cs r plain calls met given
  -- both runs come to the same calls, and what those put into the sinks is in `taken_run` for both
  have hsame : e.session.callsOf (cs.filter (!·.isTake)) = calls := e.session.callsOf_filter cs
  obtain ⟨hsession, hevents⟩ := e.session_run cs
  obtain ⟨hplain, hplainEvents⟩ := e.session_run (cs.filter (!·.isTake))
  have hno : ∀ c ∈ cs.filter (!·.isTake), c.isTake = false := by
    intro c hc
    simpa using (List.mem_filter.1 hc).2
  have hsink := sink_run_of_no_takes hno e
  have htaken := e.taken_run cs
  rw [hsame] at hplain hplainEvents hsink
  rw [hevents, ← hsink] at htaken
  rw [e.session.sink_calls] at hsink
  refine ⟨htaken, hsession.trans hplain.symm, hevents.trans hplainEvents.symm, hsink, ?_, ?_⟩
  · exact e.session.frames_encounters calls
  · exact e.session.forwarded_encounters calls

theorem delivered_in_order_two_takes :
    let id (n : Nat) := StreamId.ofNat n
    let e : Endpoint TreeStore := ⟨⟨⟨.three, 3, by decide⟩, ∅⟩, ⟨[.frame (.ping 9)], []⟩⟩
    let push := Frame.synStream (id 2) .zero 0 ∅ false
    let cs : List Command :=
      [.frames [.ping 1, .synReply (id 3) (Fields.replyBlock .three "200 OK") false], .takeInbound,
        .frame push, .frame (.windowUpdate (id 3) 7), .takeOutbound, .takeInbound,
        .frames [.data (id 3) ⟨#[1, 2]⟩ true, .goAway (id 3) 0, .data (id 3) ⟨#[3]⟩ true]]
    let r := e.run cs
    (e.session.answers push).length = 2 ∧ r.1.sink.outbound = [] ∧
      Outcome.allTaken r.2 ++ r.1.sink =
        ⟨[.frame (.ping 9), .frame (.ping 1), .frame (.windowUpdate (id 3) 7),
          .message ⟨.reply .ok, .http11,
            ⟨[("X-SPDY-Stream-ID", "3"), ("Content-Length", "2")]⟩, ⟨#[1, 2]⟩⟩,
          .frame (.goAway (id 3) 0)],
        [.rstStream (id 2) .invalidStream, .rstStream (id 2) .protocolError]⟩ := by
  intro id e push cs r
  obtain ⟨hframe, hruns⟩ := @delivered_in_order TreeStore _ _
  have hanswers : 2 ≤ (e.session.answers push).length := by decide +kernel
  refine ⟨Nat.le_antisymm (hframe e.session push).length_answers hanswers, ?_, ?_⟩
  · decide +kernel
  · exact (hruns e cs).1.trans (by decide +kernel)

end Endpoint

end Demux
