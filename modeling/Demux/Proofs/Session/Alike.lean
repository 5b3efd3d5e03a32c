import Demux.Proofs.Slot.Event
import Demux.Proofs.Store.Size

namespace Demux.Session

universe u v

variable {σ : Type u} {τ : Type v} [Store σ] [Store τ]

/-- Two sessions on the same terms with the same messages pending. -/
structure Alike (s : Session σ) (t : Session τ) : Prop where
  terms : s.terms = t.terms
  pending (id : StreamId) : s.pending? id = t.pending? id

variable [LawfulStore σ] [LawfulStore τ]

theorem pendingCount_react (s : Session τ) {f : Frame} {id : StreamId}
    (hid : f.streamId? = some id) :
    (s.react f).1.pendingCount + (s.isPending id).toNat =
      s.pendingCount + ((s.react f).1.isPending id).toNat := by
  apply Store.size_of_agree
  intro k hk
  have hsame := (s.touches_react hid).pending?_of_ne hk
  exact congrArg Option.isSome hsame.symm

namespace Alike

variable {s : Session σ} {t : Session τ}

omit [LawfulStore σ] [LawfulStore τ] in
theorem isPending (h : Alike s t) (id : StreamId) : s.isPending id = t.isPending id :=
  congrArg Option.isSome (h.pending id)

theorem pendingCount (h : Alike s t) : s.pendingCount = t.pendingCount :=
  Store.size_congr h.isPending

theorem react (h : Alike s t) {f : Frame}
    (hslot : ∀ id, f.streamId? = some id →
      slotAfter id (s.react f) = slotAfter id (t.react f)) :
    Alike (s.react f).1 (t.react f).1 ∧ (s.react f).2 = (t.react f).2 := by
  have hterms : (s.react f).1.terms = (t.react f).1.terms := by
    rw [s.terms_react, t.terms_react, h.terms]
  cases hid : f.streamId? with
  | none =>
    rw [s.react_of_streamId?_eq_none hid, t.react_of_streamId?_eq_none hid]
    exact ⟨h, rfl⟩
  | some id =>
    have hself := hslot id hid
    refine ⟨⟨hterms, fun k => ?_⟩, congrArg Prod.snd hself⟩
    by_cases hk : f.streamId? = some k
    · cases hid.symm.trans hk
      exact congrArg Prod.fst hself
    · rw [s.pending?_react_of_ne hk, t.pending?_react_of_ne hk, h.pending]

end Alike

end Demux.Session
