import Demux.Proofs.Store.Size
import Demux.Store.Bounded
import Demux.Store.Maps
import Demux.Store.Operation
import Demux.Store.Packed

namespace Demux.Store

universe u v

open LawfulStore

variable {σ : Type u} {τ : Type v} [Store σ] [Store τ]

/-- Two stores that have the same message for each stream. -/
def SameView (t : σ) (u : τ) : Prop :=
  ∀ id, get? t id = get? u id

structure Alike (t : σ) (u : τ) : Prop where
  get? (id : StreamId) : get? t id = get? u id
  bounds : bounds t = bounds u

section Lawful

variable [LawfulStore σ] [LawfulStore τ]

theorem ids_sorted_le (t : τ) : (ids t).Pairwise (· ≤ ·) := by
  apply (ids_sorted t).imp
  intro a b hlt
  exact StreamId.le_iff.2 (Nat.le_of_lt (StreamId.lt_iff.1 hlt))

theorem ids_eq_of_sorted {t : τ} {l : List StreamId} (hsorted : l.Pairwise (· ≤ ·))
    (hnodup : l.Nodup) (hmem : ∀ id, id ∈ l ↔ contains t id = true) : l = ids t := by
  have hperm : l.Perm (ids t) := by
    rw [List.perm_ext_iff_of_nodup hnodup (nodup_ids t)]
    intro id
    rw [hmem, mem_ids_iff]
  apply List.Perm.eq_of_pairwise _ hsorted (ids_sorted_le t) hperm
  intro a b _ _ hab hba
  exact StreamId.ext (Nat.le_antisymm (StreamId.le_iff.1 hab) (StreamId.le_iff.1 hba))

theorem bounds_perform (t : τ) (op : Operation) : bounds (perform t op).1 = bounds t := by
  cases op with
  | put id m =>
    simp only [perform]
    split
    · next hput => exact bounds_put hput
    · rfl
  | modify id f => exact bounds_modify t id f
  | remove id => exact bounds_erase t id
  | drain => exact bounds_clear t
  | get | size | isEmpty => rfl

namespace SameView

variable {t : σ} {u : τ}

omit [LawfulStore σ] [LawfulStore τ] in
theorem contains (h : SameView t u) (id : StreamId) : contains t id = contains u id :=
  congrArg Option.isSome (h id)

theorem size (h : SameView t u) : size t = size u :=
  size_congr h.contains

theorem isEmpty (h : SameView t u) : isEmpty t = isEmpty u :=
  congrArg (· == 0) h.size

theorem ids (h : SameView t u) : ids t = ids u := by
  apply ids_eq_of_sorted (ids_sorted_le t) (nodup_ids t)
  intro id
  rw [mem_ids_iff, h.contains]

theorem put (h : SameView t u) {id : StreamId} (hroom : refusal? t id = refusal? u id)
    (m : Message) :
    (∃ full, put t id m = .error full ∧ put u id m = .error full) ∨
      ∃ t' u', put t id m = .ok t' ∧ put u id m = .ok u' ∧ SameView t' u' := by
  cases hr : Store.refusal? t id with
  | some full => exact .inl ⟨full, put_eq_error_iff.2 hr, put_eq_error_iff.2 (hroom.symm.trans hr)⟩
  | none =>
    obtain ⟨t', ht⟩ := (put_isOk_iff (m := m)).2 hr
    obtain ⟨u', hu⟩ := (put_isOk_iff (m := m)).2 (hroom.symm.trans hr)
    refine .inr ⟨t', u', ht, hu, ?_⟩
    intro k
    rw [get?_put ht, get?_put hu, h]

theorem perform (h : SameView t u) (hroom : ∀ id, refusal? t id = refusal? u id) (op : Operation) :
    (perform t op).2 = (perform u op).2 ∧ SameView (perform t op).1 (perform u op).1 := by
  cases op with
  | put id m =>
    simp only [Store.perform]
    obtain ⟨full, ht, hu⟩ | ⟨t', u', ht, hu, hafter⟩ := h.put (hroom id) m
    · rw [ht, hu]
      exact ⟨rfl, h⟩
    · rw [ht, hu]
      exact ⟨congrArg Answer.replaced (h id), hafter⟩
  | get id => exact ⟨congrArg Answer.message (h id), h⟩
  | modify id f =>
    refine ⟨congrArg Answer.message (h id), fun k => ?_⟩
    show get? (modify t id f) k = get? (modify u id f) k
    rw [get?_modify, get?_modify, h k, h id]
  | remove id =>
    refine ⟨congrArg Answer.message (h id), fun k => ?_⟩
    show get? (erase t id) k = get? (erase u id) k
    rw [get?_erase, get?_erase, h k]
  | size => exact ⟨congrArg Answer.size h.size, h⟩
  | isEmpty => exact ⟨congrArg Answer.isEmpty h.isEmpty, h⟩
  | drain =>
    refine ⟨congrArg Answer.ids h.ids, fun k => ?_⟩
    show get? (clear t) k = get? (clear u) k
    rw [get?_clear, get?_clear]

end SameView

namespace Alike

variable {t : σ} {u : τ}

omit [LawfulStore σ] [LawfulStore τ] in
theorem sameView (h : Alike t u) : SameView t u :=
  h.get?

theorem refusal? (h : Alike t u) (id : StreamId) : refusal? t id = refusal? u id := by
  rw [Store.refusal?, Store.refusal?, h.sameView.contains, h.bounds, h.sameView.size]

theorem perform (h : Alike t u) (op : Operation) :
    (perform t op).2 = (perform u op).2 ∧ Alike (perform t op).1 (perform u op).1 := by
  obtain ⟨hanswer, hview⟩ := h.sameView.perform h.refusal? op
  refine ⟨hanswer, hview, ?_⟩
  rw [bounds_perform, bounds_perform, h.bounds]

theorem run (h : Alike t u) (ops : List Operation) :
    (run t ops).2 = (run u ops).2 ∧ Alike (run t ops).1 (run u ops).1 := by
  induction ops generalizing t u with
  | nil => exact ⟨rfl, h⟩
  | cons op ops ih =>
    obtain ⟨hanswer, hafter⟩ := h.perform op
    obtain ⟨hanswers, hend⟩ := ih hafter
    rw [run_cons, run_cons, hanswer, hanswers]
    exact ⟨rfl, hend⟩

end Alike

end Lawful

theorem Alike.bounded {t : σ} {u : τ} (h : Alike t u) (capacity : Nat) :
    Alike (⟨t, capacity⟩ : Bounded σ) (⟨u, capacity⟩ : Bounded τ) where
  get? := h.get?
  bounds := congrArg (capacity :: ·) h.bounds

theorem Alike.packed {τ : Type} [Store τ] [LawfulStore τ] {t : σ} {u : τ} (h : Alike t u) :
    Alike t (⟨u⟩ : AnyStore) where
  get? := h.get?
  bounds := h.bounds

theorem Alike.of_maps {t : HashStore} {u : TreeStore} (h : ∀ id : StreamId, t[id]? = u[id]?) :
    Alike t u where
  get? := h
  bounds := rfl

/-- The order that a hash map has its keys in comes out nowhere, whatever order it is. -/
theorem ids_eq_of_perm_keys {t : HashStore} {walk sorted : List StreamId} (hwalk : walk.Perm t.keys)
    (hperm : sorted.Perm walk) (hsorted : sorted.Pairwise (· ≤ ·)) : sorted = ids t := by
  have hkeys := hperm.trans hwalk
  apply ids_eq_of_sorted hsorted
  · exact hkeys.nodup_iff.2 Std.HashMap.nodup_keys
  · intro id
    rw [hkeys.mem_iff, Std.HashMap.mem_keys, Std.HashMap.mem_iff_isSome_getElem?]
    rfl

end Demux.Store
