import Demux.Store.Basic

namespace Demux

structure AnyStore where
  {Table : Type}
  [store : Store Table]
  [lawful : LawfulStore Table]
  table : Table

namespace AnyStore

attribute [instance] store lawful

open Store

instance : Store AnyStore where
  get? t id := get? t.table id
  put t id m :=
    match put t.table id m with
    | .ok table => .ok ⟨table⟩
    | .error full => .error full
  modify t id f := ⟨modify t.table id f⟩
  erase t id := ⟨erase t.table id⟩
  size t := size t.table
  ids t := ids t.table
  clear t := ⟨clear t.table⟩
  bounds t := bounds t.table

open LawfulStore

theorem put_def (t : AnyStore) (id : StreamId) (m : Message) :
    put t id m =
      match put t.table id m with
      | .ok table => .ok ⟨table⟩
      | .error full => .error full := rfl

instance : LawfulStore AnyStore where
  put_eq_error {t id m full} := by
    refine Iff.trans ?_ (@put_eq_error _ _ _ t.table id m full)
    rw [put_def]
    cases put t.table id m <;> simp
  get?_put {t t' id m} h k := by
    rw [put_def] at h
    split at h
    · next table hp =>
      cases h
      exact get?_put hp k
    · cases h
  bounds_put {t t' id m} h := by
    rw [put_def] at h
    split at h
    · next table hp =>
      cases h
      show bounds table = bounds t.table
      exact bounds_put hp
    · cases h
  get?_modify t id f k := get?_modify t.table id f k
  bounds_modify t id f := bounds_modify t.table id f
  get?_erase t id k := get?_erase t.table id k
  bounds_erase t id := bounds_erase t.table id
  get?_clear t k := get?_clear t.table k
  bounds_clear t := bounds_clear t.table
  mem_ids {t _} := mem_ids (t := t.table)
  ids_sorted t := ids_sorted t.table
  length_ids t := length_ids t.table

end AnyStore

end Demux
