import Demux.Proofs.Slot.Basic

namespace Demux.Store

universe u v

open LawfulStore

variable {σ : Type u} {τ : Type v} [Store σ] [Store τ] [LawfulStore σ] [LawfulStore τ]

theorem nodup_ids (t : τ) : (ids t).Nodup := by
  apply (ids_sorted t).imp
  rintro a b hlt rfl
  exact Nat.lt_irrefl _ (StreamId.lt_iff.1 hlt)

theorem mem_ids_iff {t : τ} {id : StreamId} : id ∈ ids t ↔ contains t id = true :=
  mem_ids

theorem size_congr {t : σ} {u : τ} (h : ∀ k, contains t k = contains u k) : size t = size u := by
  have hperm : (ids t).Perm (ids u) := by
    rw [List.perm_ext_iff_of_nodup (nodup_ids t) (nodup_ids u)]
    intro k
    rw [mem_ids_iff, mem_ids_iff, h k]
  rw [← length_ids, ← length_ids, hperm.length_eq]

theorem size_of_new {t : σ} {u : τ} {id : StreamId} (ht : contains t id = false)
    (hu : contains u id = true) (h : ∀ k, k ≠ id → contains t k = contains u k) :
    size u = size t + 1 := by
  have hnew : id ∉ ids t := by
    rw [mem_ids_iff, ht]
    exact Bool.false_ne_true
  have hperm : (ids u).Perm (id :: ids t) := by
    rw [List.perm_ext_iff_of_nodup (nodup_ids u) (List.nodup_cons.2 ⟨hnew, nodup_ids t⟩)]
    intro k
    rw [List.mem_cons, mem_ids_iff, mem_ids_iff]
    by_cases hk : k = id
    · simp [hk, hu]
    · simp [hk, h k hk]
  rw [← length_ids, ← length_ids, hperm.length_eq, List.length_cons]

theorem size_of_agree {t : σ} {u : τ} {id : StreamId}
    (h : ∀ k, k ≠ id → contains t k = contains u k) :
    size u + (contains t id).toNat = size t + (contains u id).toNat := by
  have hsame (heq : contains t id = contains u id) : size t = size u := by
    apply size_congr
    intro k
    by_cases hk : k = id
    · rw [hk, heq]
    · exact h k hk
  cases ht : contains t id with
  | false =>
    cases hu : contains u id with
    | false => exact (hsame (ht.trans hu.symm)).symm
    | true => exact size_of_new ht hu h
  | true =>
    cases hu : contains u id with
    | false => exact (size_of_new hu ht fun k hk => (h k hk).symm).symm
    | true => rw [hsame (ht.trans hu.symm)]

omit [LawfulStore σ] [LawfulStore τ] in
theorem size_of_isEmpty {t : τ} (h : isEmpty t = true) : size t = 0 :=
  beq_iff_eq.1 h

omit [LawfulStore σ] in
theorem size_clear (t : τ) : size (clear t) = 0 :=
  size_of_isEmpty (isEmpty_iff.2 (get?_clear t))

omit [LawfulStore σ] in
theorem size_modify (t : τ) (id : StreamId) (f : Message → Message) :
    size (modify t id f) = size t := by
  apply size_congr
  intro k
  rw [contains, contains, get?_modify]
  split
  · next hk => rw [hk, Option.isSome_map]
  · rfl

omit [LawfulStore σ] in
theorem size_erase_le (t : τ) (id : StreamId) : size (erase t id) ≤ size t := by
  have hothers (k : StreamId) (hk : k ≠ id) : contains t k = contains (erase t id) k := by
    rw [contains, contains, get?_erase, if_neg hk]
  have hself : contains (erase t id) id = false := by
    rw [contains, get?_erase, if_pos rfl]
    rfl
  have hsize := size_of_agree hothers
  rw [hself, Bool.toNat_false] at hsize
  omega

omit [LawfulStore σ] in
theorem size_put {t t' : τ} {id : StreamId} {m : Message} (h : put t id m = .ok t') :
    size t' + (contains t id).toNat = size t + 1 := by
  have hothers (k : StreamId) (hk : k ≠ id) : contains t k = contains t' k := by
    rw [contains, contains, get?_put h, if_neg hk]
  have hself : contains t' id = true := by
    rw [contains, get?_put h, if_pos rfl]
    rfl
  have hsize := size_of_agree hothers
  rw [hself] at hsize
  exact hsize

omit [LawfulStore τ] in
theorem isSome_refusal?_iff {t : τ} {capacity : Nat} (h : bounds t = [capacity])
    (id : StreamId) :
    (refusal? t id).isSome = true ↔ contains t id = false ∧ capacity ≤ size t := by
  rw [refusal?, h]
  cases contains t id with
  | true => simp
  | false => by_cases hfull : capacity ≤ size t <;> simp [hfull]

omit [LawfulStore τ] in
theorem isSome_refusal?_of_mem_bounds {t : τ} {capacity : Nat} (h : capacity ∈ bounds t)
    {id : StreamId} (hnew : contains t id = false) (hfull : capacity ≤ size t) :
    (refusal? t id).isSome = true := by
  have hmet : ((bounds t).find? (· ≤ size t)).isSome = true :=
    List.find?_isSome.2 ⟨capacity, h, decide_eq_true hfull⟩
  rw [refusal?, hnew, if_neg Bool.false_ne_true, Option.isSome_map, hmet]

end Demux.Store
