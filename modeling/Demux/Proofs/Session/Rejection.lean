import Demux.Proofs.Session.Lifetime
import Demux.Store.Bounded

namespace Demux

universe u

/-- `TurnsDown v id g`: frame `g` tells the peer that opening stream `id` came to nothing. -/
inductive Frame.TurnsDown (v : Revision) (id : StreamId) : Frame → Prop where
  | unreadable : TurnsDown v id (.rstStream id .protocolError)
  | refused : TurnsDown v id (.rstStream id .refusedStream)
  | badRequest : TurnsDown v id (.synReply id (Event.badRequestBlock v) true)

theorem Frame.TurnsDown.streamId? {v : Revision} {id : StreamId} {g : Frame}
    (h : g.TurnsDown v id) : g.streamId? = some id := by
  cases h with
  | unreadable | refused | badRequest => rfl

def Event.refuses (id : StreamId) : Event → Bool
  | refused k _ => k = id
  | _ => false

/-- The step is a frame that opens this stream, and there is room for what it opens it with. -/
def Step.accepts (v : Revision) (id : StreamId) : Step → Bool
  | ⟨.frame f, events⟩ => f.opensFor v id && !events.any (·.refuses id)
  | ⟨.close, _⟩ => false

/-- The message with more header fields or more of its body, or just as it is. -/
def Message.Continues (old m : Message) : Prop :=
  ∃ headers bytes, m = old.extend headers bytes

namespace Message.Continues

variable {old m : Message}

theorem refl (m : Message) : Continues m m :=
  ⟨∅, .empty, m.extend_empty.symm⟩

theorem extend (h : Continues old m) (headers : Fields) (bytes : ByteArray) :
    Continues old (m.extend headers bytes) := by
  obtain ⟨headers', bytes', rfl⟩ := h
  exact ⟨headers' ++ headers, bytes' ++ bytes, old.extend_extend _ _ _ _⟩

theorem addHeaders (m : Message) (block : Fields) : Continues m (m.mapHeaders (· ++ block)) := by
  rw [mapHeaders_eq_extend]
  exact (refl m).extend _ _

theorem addData (m : Message) (payload : ByteArray) : Continues m (m.append payload) := by
  rw [append_eq_extend]
  exact (refl m).extend _ _

theorem trans {whole : Message} (h : Continues old m) (hw : Continues m whole) :
    Continues old whole := by
  obtain ⟨headers, bytes, rfl⟩ := hw
  exact h.extend headers bytes

end Message.Continues

section Turn

variable {terms : Terms} {full : Option Full} {id : StreamId} {f : Frame} {p p' : Slot}
  {events : List Event}

theorem Frame.any_refuses_warnings (f : Frame) (id : StreamId) :
    f.warnings.any (·.refuses id) = false :=
  f.any_warnings fun _ => rfl

theorem Opens.accepts {v : Revision} {m : Message} (h : Opens v f id m)
    (hroom : events.any (·.refuses id) = false) :
    (Step.mk (.frame f) events).accepts v id = true := by
  rw [Step.accepts, Frame.opensFor_iff.2 ⟨m, h⟩, hroom]
  rfl

theorem Opens.accepts_append {v : Revision} {m : Message} (h : Opens v f id m) {e : Event}
    (he : e.refuses id = false) :
    (Step.mk (.frame f) (f.warnings ++ [e])).accepts v id = true := by
  apply h.accepts
  rw [List.any_append, f.any_refuses_warnings, List.any_cons, he]
  rfl

theorem Turn.continues (h : Turn terms full id f p p' events)
    (hno : (Step.mk (.frame f) events).accepts terms.revision id = false) {m : Message}
    (hm : p' = some m) : ∃ old, p = some old ∧ old.Continues m := by
  cases h with
  | rejected | refused | forwarded => exact ⟨m, hm, .refl m⟩
  | answered opens => cases hno.symm.trans (opens.accepts_append rfl)
  | kept opens => cases hno.symm.trans (opens.accepts (f.any_refuses_warnings id))
  | replaced opens => cases hno.symm.trans (opens.accepts_append rfl)
  | @addedHeaders old block =>
    cases hm
    exact ⟨old, rfl, .addHeaders old block⟩
  | @addedData old payload =>
    cases hm
    exact ⟨old, rfl, .addData old payload⟩
  | strayHeaders | strayData | endedByHeaders | endedByData | overflowed | aborted | idle =>
    cases hm

theorem Turn.continues_emitted (h : Turn terms full id f p p' events)
    (hno : (Step.mk (.frame f) events).accepts terms.revision id = false) {m : Message}
    (hm : .emitted id m ∈ events) :
    ∃ old whole, p = some old ∧ old.Continues whole ∧
      m = whole.setContentLength whole.body.size := by
  have hwarned {e : Event} (he : .emitted id m ∈ f.warnings ++ [e]) : .emitted id m = e := by
    rcases List.mem_append.1 he with hwarning | hlast
    · obtain ⟨k, -, heq⟩ := Frame.eq_of_mem_warnings hwarning
      cases heq
    · exact List.mem_singleton.1 hlast
  cases h with
  | rejected rejects =>
    cases hwarned hm
    cases rejects
  | refused => cases hwarned hm
  | answered opens => cases hno.symm.trans (opens.accepts_append rfl)
  | kept opens => cases hno.symm.trans (opens.accepts (f.any_refuses_warnings id))
  | replaced opens => cases hno.symm.trans (opens.accepts_append rfl)
  | @endedByHeaders old block =>
    cases List.mem_singleton.1 hm
    exact ⟨old, _, rfl, .addHeaders old block, rfl⟩
  | @endedByData old payload =>
    cases List.mem_singleton.1 hm
    exact ⟨old, _, rfl, .addData old payload, rfl⟩
  | strayHeaders | strayData | overflowed | aborted | forwarded => cases List.mem_singleton.1 hm
  | addedHeaders | addedData | idle => cases hm

end Turn

namespace Session

variable {τ : Type u} [Store τ] [LawfulStore τ]

/-- A call takes in as many messages as it emits or leaves pending in addition. -/
theorem call_accepts (s : Session τ) (c : Call) (id : StreamId) :
    (s.call c).2.countP (·.emits id) + ((s.call c).1.isPending id).toNat ≤
      ((Step.mk c (s.call c).2).accepts s.revision id).toNat + (s.isPending id).toNat := by
  have hstep := s.call_conserves c id
  rw [Event.countP_settles] at hstep
  cases c with
  | close =>
    simp only [Call.opensFor, Step.accepts] at hstep ⊢
    omega
  | frame f =>
    simp only [Call.opensFor, Step.accepts] at hstep ⊢
    cases hrefused : (s.call (.frame f)).2.any (·.refuses id) with
    | false =>
      rw [Bool.not_false, Bool.and_true]
      omega
    | true =>
      -- what is refused is taken in and dropped again
      obtain ⟨e, he, hrefuses⟩ := List.any_eq_true.1 hrefused
      have hdrops : e.drops id = true := by
        cases e with
        | refused => exact hrefuses
        | _ => cases hrefuses
      have hpos : 0 < (s.call (.frame f)).2.countP (·.drops id) :=
        List.countP_pos_iff.2 ⟨e, he, hdrops⟩
      have hone := Bool.toNat_le (f.opensFor s.revision id)
      rw [Bool.not_true, Bool.and_false, Bool.toNat_false]
      omega

theorem calls_accepts (s : Session τ) (cs : List Call) (id : StreamId) :
    (s.calls cs).2.countP (·.emits id) + ((s.calls cs).1.isPending id).toNat ≤
      (s.history cs).countP (·.accepts s.revision id) + (s.isPending id).toNat := by
  induction cs generalizing s with
  | nil => exact Nat.le_refl _
  | cons c cs ih =>
    have hstep := s.call_accepts c id
    have hrest := ih (s.call c).1
    rw [revision_call] at hrest
    have hc : (if (Step.mk c (s.call c).2).accepts s.revision id = true then 1 else 0) =
        ((Step.mk c (s.call c).2).accepts s.revision id).toNat := by
      cases (Step.mk c (s.call c).2).accepts s.revision id <;> rfl
    simp only [calls_cons, history_cons, List.countP_append, List.countP_cons, hc]
    omega

theorem continues_of_pending {s : Session τ} {c : Call} {id : StreamId}
    (hno : (Step.mk c (s.call c).2).accepts s.revision id = false) {m : Message}
    (hm : (s.call c).1.pending? id = some m) :
    ∃ old, s.pending? id = some old ∧ old.Continues m := by
  cases c with
  | close => cases (s.pending?_close id).symm.trans hm
  | frame f =>
    by_cases hid : f.streamId? = some id
    · exact (s.turn hid).continues hno hm
    · exact ⟨m, (s.pending?_react_of_ne hid).symm.trans hm, .refl m⟩

theorem continues_of_emitted {s : Session τ} {cs : List Call} {id : StreamId}
    (hno : ∀ t ∈ s.history cs, t.accepts s.revision id = false) {m : Message}
    (hm : .emitted id m ∈ (s.calls cs).2) :
    ∃ old whole, s.pending? id = some old ∧ old.Continues whole ∧
      m = whole.setContentLength whole.body.size := by
  induction cs generalizing s with
  | nil => cases hm
  | cons c cs ih =>
    rw [history_cons, List.forall_mem_cons] at hno
    obtain ⟨hfirst, hrest⟩ := hno
    rcases List.mem_append.1 hm with hm | hm
    · obtain ⟨f, rfl, he⟩ := exists_frame_of_emitted hm
      exact (s.turn (streamId?_of_mem_react he).symm).continues_emitted hfirst he
    · rw [← s.revision_call c] at hrest
      obtain ⟨mid, whole, hmid, hcontinues, heq⟩ := ih hrest hm
      obtain ⟨old, hold, hgrown⟩ := continues_of_pending hfirst hmid
      exact ⟨old, whole, hold, hgrown.trans hcontinues, heq⟩

omit [LawfulStore τ] in
theorem pending?_of_refusal? {s : Session τ} {id : StreamId} {why : Full}
    (h : Store.refusal? s.pending id = some why) : s.pending? id = none := by
  cases hp : s.pending? id with
  | none => rfl
  | some old =>
    have hcontains : Store.contains s.pending id = true := congrArg Option.isSome hp
    rw [Store.refusal?, if_pos hcontains] at h
    cases h

theorem cause_of_answer {s : Session τ} {f g : Frame} {e : Event} (he : e ∈ (s.react f).2)
    (hout : e.outbound? s.revision = some g) :
    e ∈ f.warnings ∨ ∃ id, Rejects s.revision f id e ∨
      ∃ m why, Opens s.revision f id m ∧ f.isLast = false ∧
        Store.refusal? s.pending id = some why ∧ e = .refused id why := by
  obtain ⟨-, rfl⟩ | ⟨id, -, hcause⟩ := cause_of_mem_react he
  · cases hout
  · generalize s.pending? id = p at hcause
    cases hcause with
    | warned warning => exact .inl warning
    | rejected rejects => exact .inr ⟨id, .inl rejects⟩
    | refused opens last room => exact .inr ⟨id, .inr ⟨_, _, opens, last, room, rfl⟩⟩
    | answered | replaced | strayHeaders | strayData | endedByHeaders | endedByData | overflowed
    | aborted | forwarded => cases hout

/-- A frame that is turned down comes to its warnings and that, and to nothing for the session. -/
theorem react_of_turnsDown {s : Session τ} {f g : Frame} {id : StreamId}
    (hg : g ∈ (Sink.ofEvents s.revision (s.react f).2).outbound)
    (hdown : g.TurnsDown s.revision id) :
    ∃ e, s.react f = (s, f.warnings ++ [e]) ∧ e.outbound? s.revision = some g := by
  obtain ⟨e, he, hout⟩ := List.mem_filterMap.1 hg
  refine ⟨e, ?_, hout⟩
  obtain hwarning | ⟨k, rejects | ⟨m, why, opens, last, room, rfl⟩⟩ := cause_of_answer he hout
  · -- a push that names no stream is not turned down for that
    obtain ⟨k, -, rfl⟩ := Frame.eq_of_mem_warnings hwarning
    cases hout
    cases hdown
  · exact s.react_of_rejects rejects
  · exact s.react_of_refused opens last room

theorem pending?_of_refusedStream {s : Session τ} {f : Frame} {id : StreamId}
    (h : .rstStream id .refusedStream ∈ (Sink.ofEvents s.revision (s.react f).2).outbound) :
    s.pending? id = none := by
  obtain ⟨e, he, hout⟩ := List.mem_filterMap.1 h
  obtain hwarning | ⟨k, rejects | ⟨m, why, -, -, room, rfl⟩⟩ := cause_of_answer he hout
  · obtain ⟨k, -, rfl⟩ := Frame.eq_of_mem_warnings hwarning
    cases hout
  · cases rejects <;> cases hout
  · cases hout
    exact pending?_of_refusal? room

theorem pending?_react_of_turnsDown {s : Session τ} {f g : Frame} {id : StreamId}
    (hg : g ∈ (Sink.ofEvents s.revision (s.react f).2).outbound)
    (hdown : g.TurnsDown s.revision id) :
    (∀ k, (s.react f).1.pending? k = s.pending? k) ∧
      (g = .rstStream id .refusedStream → s.pending? id = none) := by
  constructor
  · intro k
    obtain ⟨e, hreact, -⟩ := react_of_turnsDown hg hdown
    rw [hreact]
  · rintro rfl
    exact pending?_of_refusedStream hg

/-- Once turned down, a stream emits nothing but what was pending, until it is opened again. -/
theorem silent_of_turnsDown {s : Session τ} {f g : Frame} {id : StreamId}
    (hg : g ∈ (Sink.ofEvents s.revision (s.react f).2).outbound)
    (hdown : g.TurnsDown s.revision id) :
    let s' := (s.react f).1
    (∀ k, s'.pending? k = s.pending? k) ∧
      (g = .rstStream id .refusedStream → s'.isPending id = false) ∧
      ∀ more, (∀ t ∈ s'.history more, t.accepts s.revision id = false) →
        (s'.calls more).2.countP (·.emits id) ≤ (s.isPending id).toNat ∧
          ∀ m, .emitted id m ∈ (s'.calls more).2 →
            ∃ old whole, s.pending? id = some old ∧ old.Continues whole ∧
              m = whole.setContentLength whole.body.size := by
  intro s'
  obtain ⟨hsame, hrefused⟩ := pending?_react_of_turnsDown hg hdown
  refine ⟨hsame, fun h => ?_, fun more hno => ?_⟩
  · rw [isPending_eq, hsame, hrefused h]
    rfl
  · have hrevision : s'.revision = s.revision := s.revision_call (.frame f)
    rw [← hrevision] at hno
    constructor
    · have hnone : (s'.history more).countP (·.accepts s'.revision id) = 0 := by
        rw [List.countP_eq_zero]
        intro t ht
        rw [hno t ht]
        exact Bool.false_ne_true
      have hcount := s'.calls_accepts more id
      rw [hnone, isPending_eq s', hsame, ← isPending_eq] at hcount
      omega
    · intro m hm
      rw [← hsame id]
      exact continues_of_emitted hno hm

theorem silent_of_turnsDown_no_room :
    let id := StreamId.ofNat 1
    let s₀ : Session (Bounded TreeStore) := ⟨⟨.three, 16, by decide⟩, ⟨∅, 1⟩⟩
    let reply (k : StreamId) := Frame.synReply k (Fields.replyBlock .three "200 OK") false
    let s := (s₀.calls [.frame (reply (.ofNat 3))]).1
    let g := Frame.rstStream id .refusedStream
    let more := [Frame.data id ⟨#[1]⟩ true, reply id, .headers id ∅ true].map Call.frame
    let s' := (s.react (reply id)).1
    g ∈ (Sink.ofEvents s.revision (s.react (reply id)).2).outbound ∧
      g.TurnsDown s.revision id ∧ s'.isPending id = false ∧
      (∀ t ∈ s'.history more, t.accepts s.revision id = false) ∧
      (s'.calls more).2.countP (·.emits id) = 0 := by
  intro id s₀ reply s g more s'
  have hg : g ∈ (Sink.ofEvents s.revision (s.react (reply id)).2).outbound := by decide +kernel
  have hdown : g.TurnsDown s.revision id := .refused
  obtain ⟨-, hrefused, hsilent⟩ := silent_of_turnsDown hg hdown
  have hno : ∀ t ∈ s'.history more, t.accepts s.revision id = false := by decide +kernel
  obtain ⟨hcount, -⟩ := hsilent more hno
  have hpending : s.isPending id = false := by decide +kernel
  rw [hpending] at hcount
  exact ⟨hg, hdown, hrefused rfl, hno, Nat.le_zero.1 hcount⟩

theorem emitted_after_reset :
    let id := StreamId.ofNat 1
    let s₀ : Session TreeStore := ⟨⟨.three, 16, by decide⟩, ∅⟩
    let s := (s₀.calls [.frame (.synReply id (Fields.replyBlock .three "200 OK") false)]).1
    let r := s.react (.synReply id ∅ false)
    let more := [Call.frame (.data id .empty true)]
    Store.isEmpty s₀.pending = true ∧
      .rstStream id .protocolError ∈ (Sink.ofEvents s.revision r.2).outbound ∧
      r.1.isPending id = true ∧ (∀ t ∈ r.1.history more, t.accepts s.revision id = false) ∧
      (r.1.calls more).2.countP (·.emits id) = 1 := by
  decide +kernel

end Session

end Demux
