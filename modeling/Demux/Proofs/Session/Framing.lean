import Demux.Frame.Block
import Demux.Proofs.Session.Interchange
import Demux.Proofs.Session.Reassembly

namespace Demux

universe u

namespace Slot

/-- The same is pending and in the sinks, and both or neither overflow; the log may differ. -/
structure SameOutcome (v : Revision) (r r' : Slot × List Event) : Prop where
  slot : r.1 = r'.1
  sinks : Sink.ofEvents v r.2 = Sink.ofEvents v r'.2
  fails : r.2.any Event.isOverflow = r'.2.any Event.isOverflow

theorem SameOutcome.of_eq {v : Revision} {r r' : Slot × List Event} (h : r = r') :
    SameOutcome v r r' := by
  rw [h]
  exact ⟨rfl, rfl, rfl⟩

/-- What frames that go on with a stream's message do to it one after the other. -/
def feed (terms : Terms) (p : Slot) : List Frame → Slot × List Event
  | [] => (p, [])
  | f :: fs =>
    let (p', events) := react terms none p f
    let (p'', more) := feed terms p' fs
    (p'', events ++ more)

theorem feed_cons (terms : Terms) (p : Slot) (f : Frame) (fs : List Frame) :
    feed terms p (f :: fs) = ((feed terms (react terms none p f).1 fs).1,
      (react terms none p f).2 ++ (feed terms (react terms none p f).1 fs).2) :=
  rfl

theorem feed_singleton (terms : Terms) (p : Slot) (f : Frame) :
    feed terms p [f] = react terms none p f := by
  rw [feed_cons, feed, List.append_nil]

theorem feed_pair (terms : Terms) (p : Slot) (f g : Frame) :
    feed terms p [f, g] = ((react terms none (react terms none p f).1 g).1,
      (react terms none p f).2 ++ (react terms none (react terms none p f).1 g).2) := by
  rw [feed_cons, feed_singleton]

theorem react_of_isPieceOf (terms : Terms) (full : Option Full) (p : Slot) {id : StreamId}
    {f : Frame} (h : f.isPieceOf id = true) : react terms full p f = react terms none p f := by
  cases f with
  | headers | data => rfl
  | synStream | synReply | rstStream | settings | ping | goAway | windowUpdate => cases h

variable (terms : Terms) (v : Revision) (id : StreamId) (p : Slot)

theorem feed_data_append (a b : ByteArray) (last : Bool) :
    SameOutcome v (feed terms p [.data id (a ++ b) last])
      (feed terms p [.data id a false, .data id b last]) := by
  rw [feed_singleton, feed_pair]
  simp only [react]
  cases p with
  | none => exact ⟨rfl, rfl, rfl⟩
  | some m =>
    have hsize : m.body.size + (a ++ b).size = (m.append a).body.size + b.size := by
      rw [Message.body_append, ByteArray.size_append, ByteArray.size_append, Nat.add_assoc]
    by_cases hover : terms.limit < m.body.size + a.size
    · -- the first part is dropped with the message, and the second finds none
      have hwhole : terms.limit < m.body.size + (a ++ b).size := by
        rw [ByteArray.size_append]
        omega
      simp only [addData, if_pos hover, if_pos hwhole]
      exact ⟨rfl, rfl, rfl⟩
    · have hfirst : addData terms.limit id (some m) a false = (some (m.append a), []) := by
        simp only [addData, if_neg hover, goOn]
        rfl
      have hrest : addData terms.limit id (some m) (a ++ b) last =
          addData terms.limit id (some (m.append a)) b last := by
        simp only [addData, hsize, Message.append_append]
      rw [hfirst, hrest]
      exact .of_eq rfl

theorem feed_headers_append (h k : Fields) (last : Bool) :
    SameOutcome v (feed terms p [.headers id (h ++ k) last])
      (feed terms p [.headers id h false, .headers id k last]) := by
  rw [feed_singleton, feed_pair]
  simp only [react]
  cases p with
  | none => exact ⟨rfl, rfl, rfl⟩
  | some m =>
    have hgrown : m.mapHeaders (· ++ (h ++ k)) =
        (m.mapHeaders (· ++ h)).mapHeaders (· ++ k) := by
      simp only [Message.mapHeaders, Fields.append_assoc]
    have hrest : addHeaders id (some m) (h ++ k) last =
        addHeaders id (some (m.mapHeaders (· ++ h))) k last := by
      rw [addHeaders, addHeaders, hgrown]
    rw [hrest]
    exact .of_eq rfl

theorem feed_headers_data (h : Fields) (a : ByteArray) :
    SameOutcome v (feed terms p [.headers id h false, .data id a false])
      (feed terms p [.data id a false, .headers id h false]) := by
  rw [feed_pair, feed_pair]
  simp only [react]
  cases p with
  | none => exact ⟨rfl, rfl, rfl⟩
  | some m =>
    have hheaders : addHeaders id (some m) h false = (some (m.mapHeaders (· ++ h)), []) := rfl
    rw [hheaders]
    by_cases hover : terms.limit < m.body.size + a.size
    · -- either way the message is dropped, and headers that come later find none
      have hover' : terms.limit < (m.mapHeaders (· ++ h)).body.size + a.size := hover
      simp only [addData, if_pos hover, if_pos hover']
      exact ⟨rfl, rfl, rfl⟩
    · have hover' : ¬terms.limit < (m.mapHeaders (· ++ h)).body.size + a.size := hover
      simp only [addData, if_neg hover, if_neg hover']
      exact ⟨rfl, rfl, rfl⟩

end Slot

/-- `Reframed fs gs`: `gs` carry what `fs` do, but for cuts and the order of headers and bytes. -/
inductive Reframed : List Frame → List Frame → Prop where
  | data (id : StreamId) (a b : ByteArray) (last : Bool) :
      Reframed [.data id (a ++ b) last] [.data id a false, .data id b last]
  | headers (id : StreamId) (h k : Fields) (last : Bool) :
      Reframed [.headers id (h ++ k) last] [.headers id h false, .headers id k last]
  | swap (id : StreamId) (h : Fields) (a : ByteArray) :
      Reframed [.headers id h false, .data id a false] [.data id a false, .headers id h false]
  | refl (fs : List Frame) : Reframed fs fs
  | symm {fs gs : List Frame} (h : Reframed fs gs) : Reframed gs fs
  | trans {fs gs hs : List Frame} (h : Reframed fs gs) (h' : Reframed gs hs) : Reframed fs hs
  | append {fs gs fs' gs' : List Frame} (h : Reframed fs gs) (h' : Reframed fs' gs') :
      Reframed (fs ++ fs') (gs ++ gs')

namespace Session

variable {τ : Type u} [Store τ]

/-- The two runs leave the same pending and in the sinks, and both or neither overflow. -/
structure Indistinct (s : Session τ) (fs gs : List Frame) : Prop where
  pending (id : StreamId) : (s.feed fs).1.pending? id = (s.feed gs).1.pending? id
  sinks : Sink.ofEvents s.revision (s.feed fs).2 = Sink.ofEvents s.revision (s.feed gs).2
  fails : (s.feed fs).2.any Event.isOverflow = (s.feed gs).2.any Event.isOverflow

theorem revision_feed (s : Session τ) (fs : List Frame) : (s.feed fs).1.revision = s.revision :=
  congrArg Terms.revision (s.terms_feed fs)

variable [LawfulStore τ]

theorem slotAfter_feed {id : StreamId} {fs : List Frame} (h : ∀ f ∈ fs, f.isPieceOf id = true)
    (s : Session τ) : slotAfter id (s.feed fs) = Slot.feed s.terms (s.pending? id) fs := by
  induction fs generalizing s with
  | nil => rfl
  | cons f fs ih =>
    obtain ⟨hf, hfs⟩ := List.forall_mem_cons.1 h
    have hstep := s.react_slot (Frame.streamId?_of_isPieceOf hf)
    rw [Slot.react_of_isPieceOf _ _ _ hf] at hstep
    have hrest := ih hfs (s.react f).1
    have hslot : (s.react f).1.pending? id = (Slot.react s.terms none (s.pending? id) f).1 :=
      congrArg Prod.fst hstep
    have hevents : (s.react f).2 = (Slot.react s.terms none (s.pending? id) f).2 :=
      congrArg Prod.snd hstep
    rw [s.terms_react, hslot] at hrest
    rw [Slot.feed_cons, ← hrest, ← hevents]
    rfl

theorem pending?_feed_of_ne {id : StreamId} {fs : List Frame}
    (h : ∀ f ∈ fs, f.streamId? ≠ some id) (s : Session τ) :
    (s.feed fs).1.pending? id = s.pending? id := by
  induction fs generalizing s with
  | nil => rfl
  | cons f fs ih =>
    obtain ⟨hf, hfs⟩ := List.forall_mem_cons.1 h
    exact (ih hfs _).trans (s.pending?_react_of_ne hf)

namespace Indistinct

variable {s : Session τ} {fs gs hs fs' gs' : List Frame}

omit [LawfulStore τ] in
theorem symm (h : s.Indistinct fs gs) : s.Indistinct gs fs where
  pending id := (h.pending id).symm
  sinks := h.sinks.symm
  fails := h.fails.symm

omit [LawfulStore τ] in
theorem trans (h : s.Indistinct fs gs) (h' : s.Indistinct gs hs) : s.Indistinct fs hs where
  pending id := (h.pending id).trans (h'.pending id)
  sinks := h.sinks.trans h'.sinks
  fails := h.fails.trans h'.fails

theorem of_sameOutcome (id : StreamId) (hfs : ∀ f ∈ fs, f.isPieceOf id = true)
    (hgs : ∀ g ∈ gs, g.isPieceOf id = true)
    (h : Slot.SameOutcome s.revision (Slot.feed s.terms (s.pending? id) fs)
      (Slot.feed s.terms (s.pending? id) gs)) : s.Indistinct fs gs := by
  rw [← slotAfter_feed hfs, ← slotAfter_feed hgs] at h
  refine ⟨?_, h.sinks, h.fails⟩
  intro k
  by_cases hk : k = id
  · rw [hk]
    exact h.slot
  · have hne {f : Frame} (hf : f.isPieceOf id = true) : f.streamId? ≠ some k := by
      rw [Frame.streamId?_of_isPieceOf hf]
      intro heq
      exact hk (Option.some.inj heq).symm
    have hleft := pending?_feed_of_ne (fun f hf => hne (hfs f hf)) s
    have hright := pending?_feed_of_ne (fun g hg => hne (hgs g hg)) s
    exact hleft.trans hright.symm

theorem append (h : s.Indistinct fs gs) (h' : ∀ t : Session τ, t.Indistinct fs' gs') :
    s.Indistinct (fs ++ fs') (gs ++ gs') := by
  -- what comes after is gone through by twins first, and then by one and the same session
  have htwin : Twin (s.feed fs).1 (s.feed gs).1 := by
    refine ⟨⟨?_, h.pending⟩, ?_⟩
    · rw [s.terms_feed, s.terms_feed]
    · rw [s.bounds_feed, s.bounds_feed]
  obtain ⟨hafter, hevents⟩ := htwin.feed fs'
  obtain ⟨hpending, hsinks, hfails⟩ := h' (s.feed gs).1
  rw [revision_feed] at hsinks
  refine ⟨?_, ?_, ?_⟩
  · intro id
    rw [feed_append, feed_append]
    exact (hafter.pending id).trans (hpending id)
  · rw [feed_append, feed_append, Sink.ofEvents_append, Sink.ofEvents_append, h.sinks, hevents,
      hsinks]
  · rw [feed_append, feed_append, List.any_append, List.any_append, h.fails, hevents, hfails]

end Indistinct

theorem indistinct_data (s : Session τ) (id : StreamId) (a b : ByteArray) (last : Bool) :
    s.Indistinct [.data id (a ++ b) last] [.data id a false, .data id b last] := by
  apply Indistinct.of_sameOutcome id
  · simp [Frame.isPieceOf]
  · simp [Frame.isPieceOf]
  · exact Slot.feed_data_append _ _ _ _ a b last

theorem indistinct_headers (s : Session τ) (id : StreamId) (h k : Fields) (last : Bool) :
    s.Indistinct [.headers id (h ++ k) last] [.headers id h false, .headers id k last] := by
  apply Indistinct.of_sameOutcome id
  · simp [Frame.isPieceOf]
  · simp [Frame.isPieceOf]
  · exact Slot.feed_headers_append _ _ _ _ h k last

theorem indistinct_swap (s : Session τ) (id : StreamId) (h : Fields) (a : ByteArray) :
    s.Indistinct [.headers id h false, .data id a false]
      [.data id a false, .headers id h false] := by
  apply Indistinct.of_sameOutcome id
  · simp [Frame.isPieceOf]
  · simp [Frame.isPieceOf]
  · exact Slot.feed_headers_data _ _ _ _ h a

theorem indistinct_of_reframed {fs gs : List Frame} (h : Reframed fs gs) (s : Session τ) :
    s.Indistinct fs gs := by
  induction h generalizing s with
  | data id a b last => exact s.indistinct_data id a b last
  | headers id h k last => exact s.indistinct_headers id h k last
  | swap id h a => exact s.indistinct_swap id h a
  | refl fs => exact ⟨fun _ => rfl, rfl, rfl⟩
  | symm _ ih => exact (ih s).symm
  | trans _ _ ih ih' => exact (ih s).trans (ih' s)
  | append _ _ ih ih' => exact (ih s).append ih'

/-- However messages are cut into frames, and headers and bytes mixed, only the log can tell. -/
theorem framing_unobservable (s : Session τ) :
    (∀ id a b last, s.Indistinct [.data id (a ++ b) last] [.data id a false, .data id b last]) ∧
    (∀ id h k last,
      s.Indistinct [.headers id (h ++ k) last] [.headers id h false, .headers id k last]) ∧
    (∀ id h a, s.Indistinct [.headers id h false, .data id a false]
      [.data id a false, .headers id h false]) ∧
    ∀ fs gs, Reframed fs gs → s.Indistinct fs gs ∧
      (Sink.ofEvents s.revision (s.feed fs).2).messages =
        (Sink.ofEvents s.revision (s.feed gs).2).messages := by
  refine ⟨s.indistinct_data, s.indistinct_headers, s.indistinct_swap, ?_⟩
  intro fs gs h
  have hsame := indistinct_of_reframed h s
  exact ⟨hsame, congrArg Sink.messages hsame.sinks⟩

theorem framing_unobservable_five_frames :
    let id := StreamId.ofNat 1
    let s : Session TreeStore := ⟨⟨.three, 3, by decide⟩, ∅⟩
    let opening := Frame.synReply id (Fields.replyBlock .three "200 OK") false
    let h : Fields := ⟨[("A", "1")]⟩
    let k : Fields := ⟨[("B", "2")]⟩
    let fs := [opening, .headers id (h ++ k) false, .data id (⟨#[1]⟩ ++ ⟨#[2, 3]⟩) true]
    let gs := [opening, .headers id h false, .data id ⟨#[1]⟩ false, .headers id k false,
      .data id ⟨#[2, 3]⟩ true]
    Reframed fs gs ∧ (Sink.ofEvents s.revision (s.feed gs).2).messages =
      [⟨.reply .ok, .http11, ⟨[("X-SPDY-Stream-ID", "1"), ("A", "1"), ("B", "2"),
        ("Content-Length", "3")]⟩, ⟨#[1, 2, 3]⟩⟩] := by
  intro id s opening h k fs gs
  have hcut : Reframed fs ([opening] ++ ([.headers id h false, .headers id k false] ++
      [.data id ⟨#[1]⟩ false, .data id ⟨#[2, 3]⟩ true])) :=
    (Reframed.refl [opening]).append ((Reframed.headers id h k false).append (.data id _ _ true))
  have hswap : Reframed ([opening, .headers id h false] ++
      ([.headers id k false, .data id ⟨#[1]⟩ false] ++ [.data id ⟨#[2, 3]⟩ true])) gs :=
    (Reframed.refl _).append ((Reframed.swap id k ⟨#[1]⟩).append (.refl _))
  have hreframed : Reframed fs gs := hcut.trans hswap
  obtain ⟨-, -, -, hruns⟩ := framing_unobservable s
  have hmessages := (hruns fs gs hreframed).2
  exact ⟨hreframed, hmessages.symm.trans (by decide +kernel)⟩

end Session

end Demux
