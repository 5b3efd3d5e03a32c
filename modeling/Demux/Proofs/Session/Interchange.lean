import Demux.Frame.Block
import Demux.Proofs.Session.Alike
import Demux.Proofs.Store.Alike
import Demux.Session.Endpoint

namespace Demux

universe u v

variable {σ : Type u} {τ : Type v} [Store σ] [Store τ]

/-- Two sessions on the same terms, with the same messages pending and the same bounds. -/
structure Session.Twin (s : Session σ) (t : Session τ) : Prop extends Session.Alike s t where
  bounds : Store.bounds s.pending = Store.bounds t.pending

structure Endpoint.Twin (e : Endpoint σ) (d : Endpoint τ) : Prop where
  session : Session.Twin e.session d.session
  sink : e.sink = d.sink

namespace Session.Twin

variable {s : Session σ} {t : Session τ}

theorem store (h : Twin s t) : Store.Alike s.pending t.pending where
  get? := h.pending
  bounds := h.bounds

variable [LawfulStore σ] [LawfulStore τ]

theorem react (h : Twin s t) (f : Frame) :
    Twin (s.react f).1 (t.react f).1 ∧ (s.react f).2 = (t.react f).2 := by
  have hslot (id : StreamId) (hid : f.streamId? = some id) :
      slotAfter id (s.react f) = slotAfter id (t.react f) := by
    rw [s.react_slot hid, t.react_slot hid, h.store.refusal?, h.terms, h.pending]
  obtain ⟨hafter, hevents⟩ := h.toAlike.react hslot
  refine ⟨⟨hafter, ?_⟩, hevents⟩
  rw [s.bounds_react, t.bounds_react, h.bounds]

theorem feed (h : Twin s t) (fs : List Frame) :
    Twin (s.feed fs).1 (t.feed fs).1 ∧ (s.feed fs).2 = (t.feed fs).2 := by
  induction fs generalizing s t with
  | nil => exact ⟨h, rfl⟩
  | cons f fs ih =>
    obtain ⟨hafter, hevents⟩ := h.react f
    obtain ⟨hend, hmore⟩ := ih hafter
    rw [feed_cons, feed_cons, hevents, hmore]
    exact ⟨hend, rfl⟩

theorem handled (h : Twin s t) (fs : List Frame) : s.handled fs = t.handled fs := by
  induction fs generalizing s t with
  | nil => rfl
  | cons f fs ih =>
    obtain ⟨hafter, hevents⟩ := h.react f
    rw [Session.handled, Session.handled, hevents, ih hafter]

theorem feedAll (h : Twin s t) (fs : List Frame) :
    Twin (s.feedAll fs).1 (t.feedAll fs).1 ∧ (s.feedAll fs).2 = (t.feedAll fs).2 := by
  rw [feedAll_eq_feed_handled, feedAll_eq_feed_handled, h.handled]
  exact h.feed _

theorem close (h : Twin s t) : Twin s.close.1 t.close.1 ∧ s.close.2 = t.close.2 := by
  have hafter := (h.store.perform .drain).2
  refine ⟨⟨⟨h.terms, hafter.get?⟩, hafter.bounds⟩, ?_⟩
  simp only [Session.close, h.store.sameView.ids]

end Session.Twin

namespace Endpoint.Twin

variable {e : Endpoint σ} {d : Endpoint τ} [LawfulStore σ] [LawfulStore τ]

theorem feed (h : Twin e d) (fs : List Frame) :
    (e.feed fs).2 = (d.feed fs).2 ∧ Twin (e.feed fs).1 (d.feed fs).1 := by
  obtain ⟨hafter, hevents⟩ := h.session.feedAll fs
  have hrevision : e.session.revision = d.session.revision :=
    congrArg Terms.revision h.session.terms
  have hsink : e.sink ++ Sink.ofEvents e.session.revision (e.session.feedAll fs).2 =
      d.sink ++ Sink.ofEvents d.session.revision (d.session.feedAll fs).2 := by
    rw [h.sink, hrevision, hevents]
  have houtcome : Outcome.mk (e.session.feedAll fs).2 [] ∅ =
      Outcome.mk (d.session.feedAll fs).2 [] ∅ := by
    rw [hevents]
  exact ⟨houtcome, hafter, hsink⟩

theorem perform (h : Twin e d) (c : Command) :
    (e.perform c).2 = (d.perform c).2 ∧ Twin (e.perform c).1 (d.perform c).1 := by
  cases c with
  | frame f => exact h.feed [f]
  | frames fs => exact h.feed fs
  | close =>
    obtain ⟨hafter, hanswer⟩ := h.session.close
    have houtcome : Outcome.mk e.session.close.2.2 e.session.close.2.1 ∅ =
        Outcome.mk d.session.close.2.2 d.session.close.2.1 ∅ := by
      rw [hanswer]
    exact ⟨houtcome, hafter, h.sink⟩
  | takeInbound =>
    simp only [Endpoint.perform, Sink.takeInbound, h.sink]
    exact ⟨trivial, h.session, rfl⟩
  | takeOutbound =>
    simp only [Endpoint.perform, Sink.takeOutbound, h.sink]
    exact ⟨trivial, h.session, rfl⟩

theorem run (h : Twin e d) (cs : List Command) :
    (e.run cs).2 = (d.run cs).2 ∧ Twin (e.run cs).1 (d.run cs).1 := by
  induction cs generalizing e d with
  | nil => exact ⟨rfl, h⟩
  | cons c cs ih =>
    obtain ⟨houtcome, hafter⟩ := h.perform c
    obtain ⟨hmore, hend⟩ := ih hafter
    rw [run_cons, run_cons, houtcome, hmore]
    exact ⟨rfl, hend⟩

end Endpoint.Twin

namespace Session

variable [LawfulStore σ] [LawfulStore τ]

/-- Stores with the same messages and the same bounds are as good as one another. -/
theorem interchangeable {t : σ} {u : τ} (h : Store.Alike t u) :
    (∀ ops, (Store.run t ops).2 = (Store.run u ops).2 ∧
      Store.Alike (Store.run t ops).1 (Store.run u ops).1) ∧
    (∃ t' ids, Store.perform t .drain = (t', .ids ids) ∧ ids.Pairwise (· < ·) ∧
      (∀ id, id ∈ ids ↔ Store.contains t id = true) ∧ Store.isEmpty t' = true) ∧
    (∀ (hash : HashStore) (walk sorted : List StreamId), walk.Perm hash.keys → sorted.Perm walk →
      sorted.Pairwise (· ≤ ·) → sorted = Store.ids hash) ∧
    ∀ (terms : Terms) (k : Sink) (cs : List Command),
      let e : Endpoint σ := ⟨⟨terms, t⟩, k⟩
      let d : Endpoint τ := ⟨⟨terms, u⟩, k⟩
      (e.run cs).2 = (d.run cs).2 ∧
        (e.run cs).1.sink = (d.run cs).1.sink ∧
        (e.run cs).1.session.pendingCount = (d.run cs).1.session.pendingCount ∧
        Store.Alike (e.run cs).1.session.pending (d.run cs).1.session.pending := by
  refine ⟨h.run, ?_, ?_, ?_⟩
  · refine ⟨Store.clear t, Store.ids t, rfl, LawfulStore.ids_sorted t, ?_, ?_⟩
    · intro id
      exact Store.mem_ids_iff
    · exact Store.isEmpty_iff.2 (LawfulStore.get?_clear t)
  · intro hash walk sorted hwalk hperm hsorted
    exact Store.ids_eq_of_perm_keys hwalk hperm hsorted
  · intro terms k cs e d
    have htwin : Endpoint.Twin e d := ⟨⟨⟨rfl, h.get?⟩, h.bounds⟩, rfl⟩
    obtain ⟨houtcomes, hend⟩ := htwin.run cs
    exact ⟨houtcomes, hend.sink, hend.session.toAlike.pendingCount, hend.session.store⟩

theorem interchangeable_hash_and_tree :
    let id (n : Nat) := StreamId.ofNat n
    let m : Message := ⟨.reply .ok, .http11, ∅, ⟨#[1]⟩⟩
    let t : Bounded HashStore := ⟨(∅ : HashStore).insert (id 5) m, 2⟩
    let u : AnyStore := ⟨(⟨(∅ : TreeStore).insert (id 5) m, 2⟩ : Bounded TreeStore)⟩
    let ops : List Store.Operation := [.put (id 3) m, .put (id 7) m, .put (id 5) m,
      .modify (id 5) (·.append ⟨#[2]⟩), .remove (id 3), .get (id 5), .put (id 1) m, .size, .drain,
      .isEmpty]
    let reply (n : Nat) (last : Bool) :=
      Frame.synReply (id n) (Fields.replyBlock .three "200 OK") last
    let cs : List Command := [.frame (reply 3 false), .frame (reply 7 false), .takeOutbound, .close]
    let e : Endpoint (Bounded HashStore) := ⟨⟨⟨.three, 3, by decide⟩, t⟩, ∅⟩
    Store.Alike t u ∧
      (Store.run t ops).2 = [.replaced none, .refused ⟨id 7, 2⟩, .replaced (some m),
        .message (some m), .message (some m), .message (some (m.append ⟨#[2]⟩)), .replaced none,
        .size 2, .ids [id 1, id 5], .isEmpty true] ∧
      (e.run cs).2 = [{}, { events := [.refused (id 7) ⟨id 7, 2⟩] },
        { taken := ⟨[], [.rstStream (id 7) .refusedStream]⟩ },
        { events := [.closed [id 3, id 5]], ids := [id 3, id 5] }] := by
  intro id m t u ops reply cs e
  have hmaps (k : StreamId) :
      ((∅ : HashStore).insert (id 5) m)[k]? = ((∅ : TreeStore).insert (id 5) m)[k]? := by
    simp [Std.HashMap.getElem?_insert, Std.TreeMap.getElem?_insert]
  have halike : Store.Alike t u := ((Store.Alike.of_maps hmaps).bounded 2).packed
  obtain ⟨hanswers, -, -, hruns⟩ := interchangeable halike
  have hrun := (hruns e.session.terms ∅ cs).1
  refine ⟨halike, (hanswers ops).1.trans ?_, hrun.trans ?_⟩
  · decide +kernel
  · decide +kernel

end Session

end Demux
