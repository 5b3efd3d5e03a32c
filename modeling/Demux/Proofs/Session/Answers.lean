import Demux.Proofs.Session.Delivery
import Demux.Proofs.Session.Rejection

namespace Demux

universe u

theorem Event.badRequestBlock_eq (v : Revision) :
    badRequestBlock v = ⟨[(StartField.status.name v, "400 Bad Request"),
      (StartField.protocol.name v, "HTTP/1.0")]⟩ := by
  cases v with
  | two | three => rfl

namespace Frame

theorem outbound_warnings (v : Revision) (id associated : StreamId) (priority : UInt8)
    (block : Fields) (last : Bool) :
    (synStream id associated priority block last).warnings.filterMap (Event.outbound? v) =
      if id.isServer && associated.isZero then [.rstStream id .invalidStream] else [] := by
  simp only [warnings, Opening.pushWarnings]
  cases id.isServer with
  | false => rfl
  | true => cases associated.isZero <;> rfl

end Frame

namespace Session

section Table

variable {τ : Type u} [Store τ]

/-- What is due for a header block: `no` if it cannot be read, a refusal if there is no room. -/
def dueForBlock (s : Session τ) (id : StreamId) (no : Frame) (last : Bool) :
    Except Fault Message → List Frame
  | .error _ => [no]
  | .ok _ => if last || (Store.refusal? s.pending id).isNone then [] else
      [.rstStream id .refusedStream]

/-- What is due to the peer for a frame. -/
def due (s : Session τ) : Frame → List Frame
  | .synStream id associated _ block last =>
    if id.isServer then
      let unreadable := Frame.rstStream id .protocolError
      (if associated.isZero then [.rstStream id .invalidStream] else []) ++
        match StartField.target.get? s.revision block with
        | none => [unreadable]
        | some _ => s.dueForBlock id unreadable last (Message.ofReplyBlock s.revision block)
    else
      let badRequest := Frame.synReply id ⟨[(StartField.status.name s.revision, "400 Bad Request"),
        (StartField.protocol.name s.revision, "HTTP/1.0")]⟩ true
      s.dueForBlock id badRequest last (Message.ofRequestBlock s.revision block)
  | .synReply id block last =>
    s.dueForBlock id (.rstStream id .protocolError) last (Message.ofReplyBlock s.revision block)
  | .headers .. | .data .. | .rstStream .. | .settings .. | .ping _ | .goAway ..
  | .windowUpdate .. => []

end Table

variable {τ : Type u} [Store τ] [LawfulStore τ] {s : Session τ} {f : Frame} {id : StreamId}

omit [LawfulStore τ] in
theorem answers_of_rejects {e : Event} (h : Rejects s.revision f id e) :
    s.answers f =
      f.warnings.filterMap (Event.outbound? s.revision) ++ (e.outbound? s.revision).toList := by
  rw [answers, s.react_of_rejects h, List.filterMap_append]
  cases h with
  | request | pushWithoutUrl | push | reply => rfl

theorem answers_of_opens {m : Message} (h : Opens s.revision f id m) :
    s.answers f = f.warnings.filterMap (Event.outbound? s.revision) ++
      if f.isLast || (Store.refusal? s.pending id).isNone then [] else
        [.rstStream id .refusedStream] := by
  rw [answers, s.events_react h.streamId?, Slot.react_of_opening _ _ _ h.streamId? h.opening?,
    List.filterMap_append]
  congr 1
  cases f.isLast with
  | true => rfl
  | false =>
    cases Store.refusal? s.pending id with
    | some why => rfl
    | none => cases s.pending? id <;> rfl

theorem answers_of_opening?_eq_none (h : f.opening? s.revision = none) : s.answers f = [] := by
  rw [answers, List.filterMap_eq_nil_iff]
  intro e he
  cases hout : e.outbound? s.revision with
  | none => rfl
  | some g =>
    obtain hwarning | ⟨k, rejects | ⟨m, why, opens, -⟩⟩ := cause_of_answer he hout
    · cases f with
      | synStream => cases h
      | synReply | headers | data | rstStream | settings | ping | goAway | windowUpdate =>
        cases hwarning
    · cases rejects.opening?.symm.trans h
    · cases opens.opening?.symm.trans h

theorem answers_eq_due (s : Session τ) (f : Frame) : s.answers f = s.due f := by
  cases f with
  | synStream id associated priority block last =>
    simp only [due]
    cases hk : id.isServer with
    | true =>
      cases ht : StartField.target.get? s.revision block with
      | none =>
        rw [answers_of_rejects (.pushWithoutUrl hk ht), Frame.outbound_warnings, hk]
        rfl
      | some url =>
        cases hread : Message.ofReplyBlock s.revision block with
        | ok m =>
          rw [answers_of_opens (.push hk ht hread), Frame.outbound_warnings, hk]
          rfl
        | error fault =>
          rw [answers_of_rejects (.push hk ht hread), Frame.outbound_warnings, hk]
          rfl
    | false =>
      cases hread : Message.ofRequestBlock s.revision block with
      | ok m =>
        rw [answers_of_opens (.request hk hread), Frame.outbound_warnings, hk]
        rfl
      | error fault =>
        rw [answers_of_rejects (.request hk hread), Frame.outbound_warnings, hk,
          Event.outbound?, Event.badRequestBlock_eq]
        rfl
  | synReply id block last =>
    simp only [due]
    cases hread : Message.ofReplyBlock s.revision block with
    | ok m => exact answers_of_opens (.reply hread)
    | error fault => exact answers_of_rejects (.reply hread)
  | headers | data | rstStream | settings | ping | goAway | windowUpdate =>
    exact answers_of_opening?_eq_none rfl

end Session

namespace Endpoint

variable {τ : Type u} [Store τ] [LawfulStore τ]

/-- A frame adds to what is held for the peer just what `Session.due` says. -/
theorem answers_exact (e : Endpoint τ) (f : Frame) :
    let r := e.perform (.frame f)
    r.1.sink.outbound = e.sink.outbound ++ e.session.due f ∧
      ∀ id g, g ∈ e.session.due f → g.TurnsDown e.session.revision id →
        f.streamId? = some id ∧ r.2.overflow? = none ∧
          r.1.sink.inbound = e.sink.inbound ∧ r.1.session = e.session := by
  intro r
  have hr : r = _ := e.perform_frame f
  rw [hr, Session.sink_react, ← Session.answers_eq_due]
  refine ⟨rfl, ?_⟩
  intro id g hg hdown
  obtain ⟨k, hf, hk⟩ := (e.session.delivers f).addressed g hg
  cases hk.symm.trans hdown.streamId?
  obtain ⟨event, hreact, hout⟩ := Session.react_of_turnsDown hg hdown
  obtain ⟨hinbound, hover⟩ := Event.eq_none_of_outbound? hout
  refine ⟨hf, ?_, ?_, congrArg Prod.fst hreact⟩
  · rw [hreact, Outcome.overflow?, Event.firstOverflow?_eq_none_iff, List.any_append,
      f.any_warnings fun _ => rfl, List.any_cons, Event.isOverflow, hover]
    rfl
  · show e.sink.inbound ++ (e.session.delivery? f).toList = e.sink.inbound
    rw [← Session.inbound_react, hreact, List.filterMap_append, f.inbound_warnings,
      List.filterMap_cons_none hinbound]
    exact List.append_nil _

theorem answers_exact_push_without_room :
    let id := StreamId.ofNat 2
    let s : Session (Bounded TreeStore) := ⟨⟨.three, 16, by decide⟩, ⟨∅, 1⟩⟩
    let reply := Frame.synReply (.ofNat 1) (Fields.replyBlock .three "200 OK") false
    let e : Endpoint (Bounded TreeStore) := ⟨(s.react reply).1, ⟨[.frame (.ping 9)], []⟩⟩
    let push := Frame.synStream id .zero 0 (Fields.pushBlock .three "200 OK" "/a") false
    let refusal := Frame.rstStream id .refusedStream
    let r := e.perform (.frame push)
    refusal ∈ e.session.due push ∧ refusal.TurnsDown e.session.revision id ∧
      r.1.sink = ⟨[.frame (.ping 9)], [.rstStream id .invalidStream, refusal]⟩ ∧
      r.1.session = e.session := by
  intro id s reply e push refusal r
  have hdue : e.session.due push = [.rstStream id .invalidStream, refusal] := by decide +kernel
  have hmem : refusal ∈ e.session.due push := hdue ▸ List.mem_cons_of_mem _ (.head [])
  obtain ⟨houtbound, hquiet⟩ := answers_exact e push
  obtain ⟨-, -, hinbound, hsession⟩ := hquiet id refusal hmem .refused
  rw [hdue] at houtbound
  refine ⟨hmem, .refused, ?_, hsession⟩
  calc
    r.1.sink = ⟨r.1.sink.inbound, r.1.sink.outbound⟩ := rfl
    _ = ⟨e.sink.inbound, e.sink.outbound ++ [.rstStream id .invalidStream, refusal]⟩ := by
      rw [hinbound, houtbound]

end Endpoint

end Demux
