import Demux.Frame.Block
import Demux.Proofs.Slot.Event
import Demux.Session.Calls
import Demux.Store.Maps
import Demux.Store.Bounded

namespace Demux

universe u

/-- The frame opens this stream with a message, and is not turned down. -/
def Frame.opensFor (v : Revision) (id : StreamId) (f : Frame) : Bool :=
  f.isAbout id && (f.opening? v).any Except.isOk

theorem Frame.opensFor_of_ne {v : Revision} {id : StreamId} {f : Frame}
    (h : f.streamId? ≠ some id) : f.opensFor v id = false := by
  rw [opensFor, isAbout, decide_eq_false h, Bool.false_and]

theorem Frame.opensFor_iff {v : Revision} {id : StreamId} {f : Frame} :
    f.opensFor v id = true ↔ ∃ m, Opens v f id m := by
  rw [opensFor, Bool.and_eq_true, isAbout_iff]
  constructor
  · rintro ⟨hid, ho⟩
    obtain ⟨m, hm⟩ | ⟨e, he⟩ := opens_or_rejects (Option.isSome_of_any ho) hid
    · exact ⟨m, hm⟩
    · rw [he.opening?] at ho
      cases ho
  · rintro ⟨m, hm⟩
    rw [hm.opening?]
    exact ⟨hm.streamId?, rfl⟩

def Call.opensFor (v : Revision) (id : StreamId) : Call → Bool
  | frame f => f.opensFor v id
  | close => false

namespace Event

def emits (id : StreamId) : Event → Bool
  | emitted k _ => k = id
  | _ => false

/-- A message of this stream is dropped: replaced, reset, too long, refused or closed. -/
def drops (id : StreamId) : Event → Bool
  | replaced k | aborted k _ | refused k _ => k = id
  | overflowed overflow => overflow.id = id
  | closed ids => id ∈ ids
  | _ => false

/-- A message of this stream comes to its end, one way or the other. -/
def settles (id : StreamId) (e : Event) : Bool :=
  e.emits id || e.drops id

theorem countP_settles (id : StreamId) (events : List Event) :
    events.countP (·.settles id) = events.countP (·.emits id) + events.countP (·.drops id) := by
  induction events with
  | nil => rfl
  | cons e es ih =>
    rw [List.countP_cons, List.countP_cons, List.countP_cons, ih]
    cases he : e.emits id with
    | true =>
      cases e with
      | emitted => simp [settles, he, drops, Nat.add_right_comm]
      | _ => cases he
    | false => simp [settles, he, Nat.add_assoc]

theorem eq_of_settles {e : Event} {id k : StreamId} (h : e.settles id = true)
    (hk : e.streamId? = some k) : k = id := by
  cases e with
  | emitted | replaced | aborted | refused | overflowed =>
    cases hk
    simpa [settles, emits, drops] using h
  | closed => cases hk
  | _ => cases h

end Event

theorem Rejects.opensFor {v : Revision} {f : Frame} {id : StreamId} {e : Event}
    (h : Rejects v f id e) : f.opensFor v id = false := by
  rw [Frame.opensFor, h.opening?]
  exact Bool.and_false _

theorem Rejects.settles {v : Revision} {f : Frame} {id : StreamId} {e : Event}
    (h : Rejects v f id e) : e.settles id = false := by
  cases h with
  | request | pushWithoutUrl | push | reply => rfl

theorem Frame.countP_settles_warnings (f : Frame) (id : StreamId) :
    f.warnings.countP (·.settles id) = 0 := by
  have hnone : f.warnings.any (·.settles id) = false := f.any_warnings fun _ => rfl
  rw [List.any_eq_false] at hnone
  exact List.countP_eq_zero.2 hnone

/-- A turn takes a message in, and settles one, as often as the stream's slot comes out filled. -/
theorem Turn.conserves {terms : Terms} {full : Option Full} {id : StreamId} {f : Frame}
    {p p' : Slot} {events : List Event} (h : Turn terms full id f p p' events) :
    (f.opensFor terms.revision id).toNat + p.isSome.toNat =
      events.countP (·.settles id) + p'.isSome.toNat := by
  have hw := f.countP_settles_warnings id
  cases h with
  | rejected rejects =>
    rw [rejects.opensFor, List.countP_append, hw]
    simp [rejects.settles]
  | kept opens =>
    rw [Frame.opensFor_iff.2 ⟨_, opens⟩, hw]
    rfl
  | answered opens | refused opens | replaced opens =>
    rw [Frame.opensFor_iff.2 ⟨_, opens⟩, List.countP_append, hw]
    simp [Event.settles, Event.emits, Event.drops]
  | overflowed | aborted | endedByHeaders | endedByData | strayHeaders | strayData | addedHeaders
  | addedData | idle | forwarded =>
    simp [Frame.opensFor, Frame.opening?, Event.settles, Event.emits, Event.drops]

namespace Session

variable {τ : Type u} [Store τ]

variable [LawfulStore τ]

theorem countP_settles_react_of_ne (s : Session τ) {f : Frame} {id : StreamId}
    (h : f.streamId? ≠ some id) : (s.react f).2.countP (·.settles id) = 0 := by
  rw [List.countP_eq_zero]
  intro e he
  obtain ⟨-, rfl⟩ | ⟨k, hk, hcause⟩ := cause_of_mem_react he
  · exact Bool.false_ne_true
  · intro hsettles
    cases Event.eq_of_settles hsettles hcause.streamId?
    exact h hk

theorem react_conserves (s : Session τ) (f : Frame) (id : StreamId) :
    (f.opensFor s.revision id).toNat + (s.isPending id).toNat =
      (s.react f).2.countP (·.settles id) + ((s.react f).1.isPending id).toNat := by
  by_cases hid : f.streamId? = some id
  · exact (s.turn hid).conserves
  · rw [Frame.opensFor_of_ne hid, s.countP_settles_react_of_ne hid, isPending_eq, isPending_eq,
      s.pending?_react_of_ne hid]
    rfl

theorem close_conserves (s : Session τ) (id : StreamId) :
    (s.isPending id).toNat =
      s.close.2.2.countP (·.settles id) + (s.close.1.isPending id).toNat := by
  have hids := @mem_ids_close _ _ _ s id
  rw [isPending_eq s.close.1, s.pending?_close]
  simp only [close] at hids ⊢
  cases hl : Store.ids s.pending with
  | nil =>
    rw [hl] at hids
    cases hp : s.isPending id with
    | true => cases hids.2 hp
    | false => rfl
  | cons k ks =>
    rw [hl] at hids
    have hk : (Event.closed (k :: ks)).settles id = s.isPending id := by
      have hd : (Event.closed (k :: ks)).settles id = decide (id ∈ k :: ks) := rfl
      rw [hd, Bool.eq_iff_iff, decide_eq_true_iff]
      exact hids
    rw [List.isEmpty_cons, if_neg Bool.false_ne_true, List.countP_singleton, hk]
    cases s.isPending id <;> rfl

theorem call_conserves (s : Session τ) (c : Call) (id : StreamId) :
    (c.opensFor s.revision id).toNat + (s.isPending id).toNat =
      (s.call c).2.countP (·.settles id) + ((s.call c).1.isPending id).toNat := by
  cases c with
  | frame f => exact s.react_conserves f id
  | close => exact (Nat.zero_add _).trans (s.close_conserves id)

theorem countP_opensFor (s : Session τ) (cs : List Call) (id : StreamId) :
    cs.countP (·.opensFor s.revision id) + (s.isPending id).toNat =
      (s.calls cs).2.countP (·.settles id) + ((s.calls cs).1.isPending id).toNat := by
  induction cs generalizing s with
  | nil => rfl
  | cons c cs ih =>
    have hstep := s.call_conserves c id
    have hrest := ih (s.call c).1
    rw [revision_call] at hrest
    have hc : (if c.opensFor s.revision id = true then 1 else 0) =
        (c.opensFor s.revision id).toNat := by
      cases c.opensFor s.revision id <;> rfl
    simp only [List.countP_cons, calls_cons, List.countP_append, hc]
    omega

theorem isPending_of_isEmpty {s : Session τ} (hs : Store.isEmpty s.pending = true)
    (id : StreamId) : s.isPending id = false := by
  rw [isPending_eq, pending?, Store.isEmpty_iff.1 hs id]
  rfl

/-- No more messages are emitted for a stream than frames open it. -/
theorem emits_le_opens {s : Session τ} (hs : Store.isEmpty s.pending = true) (cs : List Call)
    (id : StreamId) :
    let r := s.calls cs
    r.2.countP (·.emits id) ≤ cs.countP (·.opensFor s.revision id) ∧
      ∀ more : List Call, more.countP (·.opensFor s.revision id) = 0 → r.1.isPending id = false →
        (r.1.calls more).2.countP (·.emits id) = 0 := by
  intro r
  constructor
  · have hcount := s.countP_opensFor cs id
    rw [isPending_of_isEmpty hs, Event.countP_settles] at hcount
    calc
      (s.calls cs).2.countP (·.emits id)
        ≤ (s.calls cs).2.countP (·.emits id) + (s.calls cs).2.countP (·.drops id) +
          ((s.calls cs).1.isPending id).toNat := by omega
      _ = cs.countP (·.opensFor s.revision id) := hcount.symm
  · intro more hmore hp
    have hcount := r.1.countP_opensFor more id
    rw [s.revision_calls cs, hmore, hp, Event.countP_settles] at hcount
    simp only [Bool.toNat_false] at hcount
    omega

theorem emits_le_opens_one_reply :
    let id := StreamId.ofNat 3
    let s : Session TreeStore := ⟨⟨.three, 2, by decide⟩, ∅⟩
    let cs := [Frame.synReply id (Fields.replyBlock .three "200 OK") false,
      .data id ⟨#[1]⟩ true].map Call.frame
    let more := [Frame.data id ⟨#[2]⟩ true, .headers id ∅ true, .synReply id ∅ true].map Call.frame
    Store.isEmpty s.pending = true ∧ (s.calls cs).2.countP (·.emits id) ≤ 1 ∧
      more.countP (·.opensFor s.revision id) = 0 ∧ (s.calls cs).1.isPending id = false ∧
      ((s.calls cs).1.calls more).2.countP (·.emits id) = 0 := by
  intro id s cs more
  have hs : Store.isEmpty s.pending = true := by decide +kernel
  have hmore : more.countP (·.opensFor s.revision id) = 0 := by decide +kernel
  have hp : (s.calls cs).1.isPending id = false := by decide +kernel
  have hopened : cs.countP (·.opensFor s.revision id) ≤ 1 := by decide +kernel
  obtain ⟨hle, hnone⟩ := emits_le_opens hs cs id
  exact ⟨hs, Nat.le_trans hle hopened, hmore, hp, hnone more hmore hp⟩

theorem two_messages_emitted_for_one_stream :
    let id := StreamId.ofNat 1
    let s : Session TreeStore := ⟨⟨.three, 16, by decide⟩, ∅⟩
    let reply (last : Bool) := Frame.synReply id (Fields.replyBlock .three "200 OK") last
    Store.isEmpty s.pending = true ∧
      (s.calls ([reply false, reply true, .data id .empty true].map .frame)).2.countP
        (·.emits id) = 2 := by
  decide +kernel

end Session

end Demux
