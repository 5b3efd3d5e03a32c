import Demux.Store.Basic

namespace Demux

universe u

/-- A store that takes no new stream while it holds `capacity` messages or more. -/
structure Bounded (τ : Type u) where
  inner : τ
  capacity : Nat

namespace Bounded

variable {τ : Type u} [Store τ]

open Store

instance : Store (Bounded τ) where
  get? t id := get? t.inner id
  put t id m :=
    if (get? t.inner id).isNone && t.capacity ≤ size t.inner then .error ⟨id, t.capacity⟩
    else
      match put t.inner id m with
      | .ok inner => .ok { t with inner }
      | .error full => .error full
  modify t id f := { t with inner := modify t.inner id f }
  erase t id := { t with inner := erase t.inner id }
  size t := size t.inner
  ids t := ids t.inner
  clear t := { t with inner := clear t.inner }
  bounds t := t.capacity :: bounds t.inner

theorem get?_def (t : Bounded τ) (id : StreamId) : get? t id = get? t.inner id := rfl

theorem size_def (t : Bounded τ) : size t = size t.inner := rfl

theorem bounds_def (t : Bounded τ) : bounds t = t.capacity :: bounds t.inner := rfl

theorem put_def (t : Bounded τ) (id : StreamId) (m : Message) :
    put t id m =
      if (get? t.inner id).isNone && t.capacity ≤ size t.inner then .error ⟨id, t.capacity⟩
      else
        match put t.inner id m with
        | .ok inner => .ok { t with inner }
        | .error full => .error full := rfl

theorem put_inner {t t' : Bounded τ} {id : StreamId} {m : Message} (h : put t id m = .ok t') :
    put t.inner id m = .ok t'.inner ∧ t'.capacity = t.capacity := by
  rw [put_def] at h
  split at h
  · cases h
  · split at h
    · cases h
      exact ⟨by assumption, rfl⟩
    · cases h

open LawfulStore

instance [LawfulStore τ] : LawfulStore (Bounded τ) where
  put_eq_error {t id m full} := by
    have inner := @put_eq_error _ _ _ t.inner id m full
    rw [put_def, get?_def, bounds_def, size_def, List.find?_cons]
    cases hg : get? t.inner id with
    | some old => cases hp : put t.inner id m <;> simp_all
    | none =>
      by_cases hb : t.capacity ≤ size t.inner
      · cases full
        simp [hb, eq_comm]
      · cases hp : put t.inner id m <;> simp_all [Nat.not_le.2]
  get?_put h k := get?_put (put_inner h).1 k
  bounds_put h := by
    rw [bounds_def, bounds_def, bounds_put (put_inner h).1, (put_inner h).2]
  get?_modify t id f k := get?_modify t.inner id f k
  bounds_modify t id f := congrArg (t.capacity :: ·) (bounds_modify t.inner id f)
  get?_erase t id k := get?_erase t.inner id k
  bounds_erase t id := congrArg (t.capacity :: ·) (bounds_erase t.inner id)
  get?_clear t k := get?_clear t.inner k
  bounds_clear t := congrArg (t.capacity :: ·) (bounds_clear t.inner)
  mem_ids {t _} := mem_ids (t := t.inner)
  ids_sorted t := ids_sorted t.inner
  length_ids t := length_ids t.inner

end Bounded

end Demux
