import Demux.Proofs.Slot.Turn

namespace Demux

universe u

def Frame.isAbout (id : StreamId) (f : Frame) : Bool :=
  f.streamId? = some id

theorem Frame.isAbout_iff {id : StreamId} {f : Frame} :
    f.isAbout id = true ↔ f.streamId? = some id := by
  simp [isAbout]

namespace Event

/-- The stream that an event is about, if it is about one. -/
def streamId? : Event → Option StreamId
  | forwarded frame => frame.streamId?
  | emitted id _ | replaced id | aborted id _ | strayHeaders id | strayData id | badRequest id _
  | badReply id _ | badPush id _ | pushWithoutStream id | pushWithoutUrl id | refused id _ =>
    some id
  | overflowed overflow => some overflow.id
  | closed _ => none

theorem streamId?_of_outbound? {v : Revision} {e : Event} {g : Frame}
    (h : e.outbound? v = some g) : g.streamId? = e.streamId? := by
  cases e with
  | badRequest | badReply | badPush | pushWithoutStream | pushWithoutUrl | refused =>
    cases h
    rfl
  | forwarded | emitted | replaced | aborted | strayHeaders | strayData | closed | overflowed =>
    cases h

end Event

theorem Rejects.streamId?_event {v : Revision} {f : Frame} {id : StreamId} {e : Event}
    (h : Rejects v f id e) : e.streamId? = some id := by
  cases h with
  | request | pushWithoutUrl | push | reply => rfl

/-- `Cause terms full id f p e`: with `p` pending, frame `f` of `id` gives reason for `e`. -/
inductive Cause (terms : Terms) (full : Option Full) (id : StreamId) :
    Frame → Slot → Event → Prop where
  | warned {f : Frame} {p : Slot} (warning : .pushWithoutStream id ∈ f.warnings) :
      Cause terms full id f p (.pushWithoutStream id)
  | rejected {f : Frame} {p : Slot} {e : Event} (rejects : Rejects terms.revision f id e) :
      Cause terms full id f p e
  | answered {f : Frame} {p : Slot} {m : Message}
      (opens : Opens terms.revision f id m) (last : f.isLast = true) :
      Cause terms full id f p (.emitted id (f.sealed m))
  | refused {f : Frame} {p : Slot} {m : Message} {why : Full}
      (opens : Opens terms.revision f id m) (last : f.isLast = false)
      (room : full = some why) :
      Cause terms full id f p (.refused id why)
  | replaced {f : Frame} {old m : Message}
      (opens : Opens terms.revision f id m) (last : f.isLast = false)
      (room : full = none) :
      Cause terms full id f (some old) (.replaced id)
  | strayHeaders {block : Fields} {last : Bool} :
      Cause terms full id (.headers id block last) none (.strayHeaders id)
  | strayData {payload : ByteArray} {last : Bool} :
      Cause terms full id (.data id payload last) none (.strayData id)
  | endedByHeaders {m : Message} {block : Fields} :
      Cause terms full id (.headers id block true) (some m)
        (.emitted id ((m.mapHeaders (· ++ block)).setContentLength m.body.size))
  | endedByData {m : Message} {payload : ByteArray}
      (fits : m.body.size + payload.size ≤ terms.limit) :
      Cause terms full id (.data id payload true) (some m)
        (.emitted id ((m.append payload).setContentLength (m.append payload).body.size))
  | overflowed {m : Message} {payload : ByteArray} {last : Bool}
      (exceeds : terms.limit < m.body.size + payload.size) :
      Cause terms full id (.data id payload last) (some m)
        (.overflowed ⟨id, m.body.size + payload.size, terms.limit⟩)
  | aborted {m : Message} {code : ResetCode} :
      Cause terms full id (.rstStream id code) (some m) (.aborted id code)
  | forwarded {p : Slot} {delta : UInt32} :
      Cause terms full id (.windowUpdate id delta) p (.forwarded (.windowUpdate id delta))

section Cause

variable {terms : Terms} {full : Option Full} {id : StreamId} {f : Frame} {p p' : Slot}
  {events : List Event} {e : Event}

theorem Cause.of_mem_warnings (hid : f.streamId? = some id) (he : e ∈ f.warnings) :
    Cause terms full id f p e := by
  obtain ⟨k, hk, rfl⟩ := Frame.eq_of_mem_warnings he
  cases hk.symm.trans hid
  exact .warned he

theorem Cause.of_mem_warnings_append {e' : Event} (hid : f.streamId? = some id)
    (h' : Cause terms full id f p e') (he : e ∈ f.warnings ++ [e']) :
    Cause terms full id f p e := by
  rcases List.mem_append.1 he with he | he
  · exact .of_mem_warnings hid he
  · cases List.mem_singleton.1 he
    exact h'

theorem Turn.cause (h : Turn terms full id f p p' events) (hid : f.streamId? = some id)
    (he : e ∈ events) : Cause terms full id f p e := by
  cases h with
  | rejected rejects => exact .of_mem_warnings_append hid (.rejected rejects) he
  | answered opens last => exact .of_mem_warnings_append hid (.answered opens last) he
  | refused opens last room => exact .of_mem_warnings_append hid (.refused opens last room) he
  | replaced opens last room => exact .of_mem_warnings_append hid (.replaced opens last room) he
  | kept => exact .of_mem_warnings hid he
  | strayHeaders =>
    cases List.mem_singleton.1 he
    exact .strayHeaders
  | strayData =>
    cases List.mem_singleton.1 he
    exact .strayData
  | endedByHeaders =>
    cases List.mem_singleton.1 he
    exact .endedByHeaders
  | endedByData fits =>
    cases List.mem_singleton.1 he
    exact .endedByData fits
  | overflowed exceeds =>
    cases List.mem_singleton.1 he
    exact .overflowed exceeds
  | aborted =>
    cases List.mem_singleton.1 he
    exact .aborted
  | forwarded =>
    cases List.mem_singleton.1 he
    exact .forwarded
  | addedHeaders | addedData | idle => cases he

theorem Cause.streamId? (h : Cause terms full id f p e) : e.streamId? = some id := by
  cases h with
  | rejected rejects => exact rejects.streamId?_event
  | warned | answered | refused | replaced | strayHeaders | strayData | endedByHeaders | endedByData
  | overflowed | aborted | forwarded => rfl

end Cause

namespace Session

variable {τ : Type u} [Store τ] [LawfulStore τ] {s : Session τ} {f : Frame} {e : Event}

/-- What comes of a frame has a cause, or is the frame itself, passed on. -/
theorem cause_of_mem_react (h : e ∈ (s.react f).2) :
    (f.streamId? = none ∧ e = .forwarded f) ∨
      ∃ id, f.streamId? = some id ∧
        Cause s.terms (Store.refusal? s.pending id) id f (s.pending? id) e := by
  cases hid : f.streamId? with
  | none =>
    rw [s.react_of_streamId?_eq_none hid] at h
    exact .inl ⟨rfl, List.mem_singleton.1 h⟩
  | some id => exact .inr ⟨id, rfl, (s.turn hid).cause hid h⟩

theorem streamId?_of_mem_react (h : e ∈ (s.react f).2) : e.streamId? = f.streamId? := by
  obtain ⟨-, rfl⟩ | ⟨id, hid, hcause⟩ := cause_of_mem_react h
  · rfl
  · exact hcause.streamId?.trans hid.symm

end Session

end Demux
