import Demux.Proofs.Slot.Event
import Demux.Frame.Block
import Demux.Session.Run
import Demux.Store.Maps

namespace Demux

universe u v

namespace Session

section Trace

variable {τ : Type u} [Store τ]

/-- A run frame by frame: each frame with what came of it. -/
def trace (s : Session τ) : List Frame → List (Frame × List Event)
  | [] => []
  | f :: fs => (f, (s.react f).2) :: (s.react f).1.trace fs

theorem trace_cons (s : Session τ) (f : Frame) (fs : List Frame) :
    s.trace (f :: fs) = (f, (s.react f).2) :: (s.react f).1.trace fs := rfl

variable [LawfulStore τ]

theorem filter_outbound_react (s : Session τ) (w : Revision) (f : Frame) (id : StreamId) :
    ((s.react f).2.filterMap (Event.outbound? w)).filter (·.isAbout id) =
      if f.isAbout id then (s.react f).2.filterMap (Event.outbound? w) else [] := by
  have hid {g : Frame} (hg : g ∈ (s.react f).2.filterMap (Event.outbound? w)) :
      g.streamId? = f.streamId? := by
    obtain ⟨e, he, hg⟩ := List.mem_filterMap.1 hg
    exact (Event.streamId?_of_outbound? hg).trans (streamId?_of_mem_react he)
  split
  · next hf =>
    rw [List.filter_eq_self]
    intro g hg
    rw [Frame.isAbout_iff, hid hg, ← Frame.isAbout_iff]
    exact hf
  · next hf =>
    rw [List.filter_eq_nil_iff]
    intro g hg
    rw [Frame.isAbout_iff, hid hg, ← Frame.isAbout_iff]
    exact hf

theorem filter_outbound_feed (s : Session τ) (w : Revision) (fs : List Frame) (id : StreamId) :
    (Sink.ofEvents w (s.feed fs).2).outbound.filter (·.isAbout id) =
      (Sink.ofEvents w (((s.trace fs).filter (·.1.isAbout id)).flatMap Prod.snd)).outbound := by
  induction fs generalizing s with
  | nil => rfl
  | cons f fs ih =>
    have hrest := ih (s.react f).1
    simp only [Sink.ofEvents] at hrest ⊢
    rw [feed_cons, List.filterMap_append, List.filter_append, hrest, filter_outbound_react,
      trace_cons, List.filter_cons]
    by_cases hf : f.isAbout id = true
    · rw [if_pos hf, if_pos hf, List.flatMap_cons, List.filterMap_append]
    · rw [if_neg hf, if_neg hf, List.nil_append]

end Trace

variable {σ : Type u} {τ : Type v} [Store σ] [Store τ]

/-- Two sessions that take every stream, and that do not differ where stream `id` is concerned. -/
structure Agree (id : StreamId) (s : Session σ) (t : Session τ) : Prop where
  terms : s.terms = t.terms
  pending : s.pending? id = t.pending? id
  unbounded : Store.bounds s.pending = []
  unbounded' : Store.bounds t.pending = []

namespace Agree

variable [LawfulStore σ] [LawfulStore τ] {id : StreamId} {s : Session σ} {t : Session τ}

theorem slotAfter_react (h : Agree id s t) {f : Frame} (hf : f.streamId? = some id) :
    slotAfter id (s.react f) = slotAfter id (t.react f) := by
  rw [s.react_slot hf, t.react_slot hf, Store.refusal?_of_bounds_eq_nil h.unbounded,
    Store.refusal?_of_bounds_eq_nil h.unbounded', h.terms, h.pending]

theorem events (h : Agree id s t) {f : Frame} (hf : f.streamId? = some id) :
    (s.react f).2 = (t.react f).2 :=
  congrArg Prod.snd (h.slotAfter_react hf)

theorem react (h : Agree id s t) {f : Frame} (hf : f.streamId? = some id) :
    Agree id (s.react f).1 (t.react f).1 where
  terms := by rw [s.terms_react, t.terms_react, h.terms]
  pending := congrArg Prod.fst (h.slotAfter_react hf)
  unbounded := (s.bounds_react f).trans h.unbounded
  unbounded' := (t.bounds_react f).trans h.unbounded'

omit [LawfulStore τ] in
theorem react_of_ne (h : Agree id s t) {f : Frame} (hf : f.streamId? ≠ some id) :
    Agree id (s.react f).1 t where
  terms := (s.terms_react f).trans h.terms
  pending := (s.pending?_react_of_ne hf).trans h.pending
  unbounded := (s.bounds_react f).trans h.unbounded
  unbounded' := h.unbounded'

theorem feed (h : Agree id s t) (fs : List Frame) :
    Agree id (s.feed fs).1 (t.feed (fs.filter (·.isAbout id))).1 := by
  induction fs generalizing s t with
  | nil => exact h
  | cons f fs ih =>
    by_cases hf : f.isAbout id = true
    · rw [List.filter_cons_of_pos hf]
      exact ih (h.react (Frame.isAbout_iff.1 hf))
    · rw [List.filter_cons_of_neg hf]
      exact ih (h.react_of_ne (mt Frame.isAbout_iff.2 hf))

theorem trace (h : Agree id s t) (fs : List Frame) :
    (s.trace fs).filter (·.1.isAbout id) = t.trace (fs.filter (·.isAbout id)) := by
  induction fs generalizing s t with
  | nil => rfl
  | cons f fs ih =>
    rw [trace_cons, List.filter_cons, List.filter_cons]
    by_cases hf : f.isAbout id = true
    · have hid := Frame.isAbout_iff.1 hf
      rw [if_pos hf, if_pos hf, trace_cons, ih (h.react hid), h.events hid]
    · rw [if_neg hf, if_neg hf]
      exact ih (h.react_of_ne (mt Frame.isAbout_iff.2 hf))

end Agree

variable [LawfulStore τ]

/-- Where no stream is refused, the frames of other streams make no difference to a stream. -/
theorem feed_isolated (s : Session τ) (hs : Store.bounds s.pending = []) (fs : List Frame)
    (id : StreamId) :
    let own := fs.filter (·.isAbout id)
    (s.feed fs).1.pending? id = (s.feed own).1.pending? id ∧
      (s.trace fs).filter (·.1.isAbout id) = s.trace own ∧
      (Sink.ofEvents s.revision (s.feed fs).2).outbound.filter (·.isAbout id) =
        (Sink.ofEvents s.revision (s.feed own).2).outbound.filter (·.isAbout id) := by
  intro own
  have hself : Agree id s s := ⟨rfl, rfl, hs, hs⟩
  have htrace := hself.trace fs
  refine ⟨(hself.feed fs).pending, htrace, ?_⟩
  have hfilter : own.filter (·.isAbout id) = own := by simp [own]
  have hown := hself.trace own
  rw [hfilter] at hown
  rw [filter_outbound_feed, filter_outbound_feed, htrace, hown]

theorem feed_isolated_from_bad_streams :
    let s : Session TreeStore := ⟨⟨.two, 2, by decide⟩, ∅⟩
    let block := Fields.replyBlock .two "200 OK"
    let own := [Frame.synReply (.ofNat 3) block false, .data (.ofNat 3) ⟨#[104, 105]⟩ true]
    let fs := [Frame.synReply (.ofNat 5) block false, .synReply (.ofNat 3) block false,
      .request (.ofNat 1) ∅ false, .data (.ofNat 5) ⟨#[1, 2, 3]⟩ false,
      .data (.ofNat 3) ⟨#[104, 105]⟩ true, .rstStream (.ofNat 5) .protocolError]
    Store.bounds s.pending = [] ∧
      (s.trace fs).filter (·.1.isAbout (.ofNat 3)) = s.trace own := by
  intro s block own fs
  have hunbounded : Store.bounds s.pending = [] := rfl
  have hown : fs.filter (·.isAbout (.ofNat 3)) = own := rfl
  have h := (feed_isolated s hunbounded fs (.ofNat 3)).2.1
  rw [hown] at h
  exact ⟨hunbounded, h⟩

end Session

end Demux
