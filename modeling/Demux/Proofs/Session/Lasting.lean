import Demux.Proofs.Slot.Event
import Demux.Session.Calls

namespace Demux

universe u

/-- `Lasting terms P`: `P` holds of messages as they are opened, and still as they grow. -/
structure Lasting (terms : Terms) (P : StreamId → Message → Prop) : Prop where
  opens {f : Frame} {id : StreamId} {m : Message} (h : Opens terms.revision f id m) : P id m
  addHeaders {id : StreamId} {m : Message} (h : P id m) (block : Fields) :
    P id (m.mapHeaders (· ++ block))
  addData {id : StreamId} {m : Message} (h : P id m) {payload : ByteArray}
    (fits : m.body.size + payload.size ≤ terms.limit) : P id (m.append payload)

/-- `Ended terms P id m`: message `m` is what a message with property `P` is emitted as. -/
inductive Ended (terms : Terms) (P : StreamId → Message → Prop) (id : StreamId) :
    Message → Prop where
  | opening {f : Frame} {m : Message} (opens : Opens terms.revision f id m)
      (last : f.isLast = true) : Ended terms P id (f.sealed m)
  | grown {m : Message} (holds : P id m) : Ended terms P id (m.setContentLength m.body.size)

variable {terms : Terms} {P : StreamId → Message → Prop}

theorem Lasting.turn (hP : Lasting terms P) {full : Option Full} {id : StreamId} {f : Frame}
    {p p' : Slot} {events : List Event} (h : Turn terms full id f p p' events)
    (hp : ∀ m, p = some m → P id m) : ∀ m, p' = some m → P id m := by
  intro m hm
  cases h with
  | rejected | answered | refused | forwarded => exact hp m hm
  | kept opens | replaced opens =>
    cases hm
    exact hP.opens opens
  | addedHeaders =>
    cases hm
    exact hP.addHeaders (hp _ rfl) _
  | addedData fits =>
    cases hm
    exact hP.addData (hp _ rfl) fits
  | strayHeaders | strayData | endedByHeaders | endedByData | overflowed | aborted | idle =>
    cases hm

theorem Lasting.ended (hP : Lasting terms P) {full : Option Full} {id k : StreamId} {f : Frame}
    {p : Slot} {m : Message} (h : Cause terms full id f p (.emitted k m))
    (hp : ∀ m, p = some m → P id m) : Ended terms P k m := by
  cases h with
  | rejected rejects => cases rejects
  | answered opens last => exact .opening opens last
  | endedByHeaders => exact .grown (hP.addHeaders (hp _ rfl) _)
  | endedByData fits => exact .grown (hP.addData (hp _ rfl) fits)

namespace Session

variable {τ : Type u} [Store τ]

/-- All pending messages of a session have the property. -/
def AllPending (P : StreamId → Message → Prop) (s : Session τ) : Prop :=
  ∀ id m, s.pending? id = some m → P id m

variable [LawfulStore τ]

theorem AllPending.of_isEmpty {s : Session τ} (h : Store.isEmpty s.pending = true) :
    s.AllPending P := by
  intro id m hm
  cases (Store.isEmpty_iff.1 h id).symm.trans hm

theorem AllPending.react {s : Session τ} (h : s.AllPending P) (hP : Lasting s.terms P) (f : Frame) :
    (s.react f).1.AllPending P := by
  intro id
  by_cases hid : f.streamId? = some id
  · exact hP.turn (s.turn hid) (h id)
  · rw [s.pending?_react_of_ne hid]
    exact h id

theorem AllPending.ended {s : Session τ} (h : s.AllPending P) (hP : Lasting s.terms P) {f : Frame}
    {k : StreamId} {m : Message} (he : .emitted k m ∈ (s.react f).2) : Ended s.terms P k m := by
  obtain ⟨-, heq⟩ | ⟨id, -, hcause⟩ := cause_of_mem_react he
  · cases heq
  · exact hP.ended hcause (h id)

theorem AllPending.close (s : Session τ) : s.close.1.AllPending P := by
  intro id m hm
  cases (s.pending?_close id).symm.trans hm

theorem AllPending.call {s : Session τ} (h : s.AllPending P) (hP : Lasting s.terms P) (c : Call) :
    (s.call c).1.AllPending P := by
  cases c with
  | frame f => exact h.react hP f
  | close => exact .close s

theorem AllPending.ended_call {s : Session τ} (h : s.AllPending P) (hP : Lasting s.terms P)
    {c : Call} {k : StreamId} {m : Message} (he : .emitted k m ∈ (s.call c).2) :
    Ended s.terms P k m := by
  obtain ⟨f, rfl, he⟩ := exists_frame_of_emitted he
  exact h.ended hP he

theorem AllPending.calls {s : Session τ} (h : s.AllPending P) (hP : Lasting s.terms P)
    (cs : List Call) : (s.calls cs).1.AllPending P := by
  induction cs generalizing s with
  | nil => exact h
  | cons c cs ih =>
    apply ih (h.call hP c)
    rw [s.terms_call c]
    exact hP

theorem AllPending.ended_calls {s : Session τ} (h : s.AllPending P) (hP : Lasting s.terms P)
    {cs : List Call} {k : StreamId} {m : Message} (he : .emitted k m ∈ (s.calls cs).2) :
    Ended s.terms P k m := by
  induction cs generalizing s with
  | nil => cases he
  | cons c cs ih =>
    rcases List.mem_append.1 he with he | he
    · exact h.ended_call hP he
    · have hrest := ih (h.call hP c)
      rw [s.terms_call c] at hrest
      exact hrest hP he

end Session

end Demux
