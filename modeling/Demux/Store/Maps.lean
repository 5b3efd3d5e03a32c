import Demux.Store.Basic
import Std.Data.HashMap
import Std.Data.TreeMap

namespace Demux

abbrev HashStore : Type := Std.HashMap StreamId Message

abbrev TreeStore : Type := Std.TreeMap StreamId Message

instance : Store HashStore where
  get? t id := t[id]?
  put t id m := .ok (t.insert id m)
  modify t id f := t.modify id f
  erase t id := t.erase id
  size t := t.size
  ids t := t.keys.mergeSort fun a b => decide (a ≤ b)
  clear _ := ∅
  bounds _ := []

instance : Store TreeStore where
  get? t id := t[id]?
  put t id m := .ok (t.insert id m)
  modify t id f := t.modify id f
  erase t id := t.erase id
  size t := t.size
  ids t := t.keys
  clear _ := ∅
  bounds _ := []

theorem StreamId.sorted_mergeSort_of_nodup {l : List StreamId} (h : l.Nodup) :
    (l.mergeSort fun a b => decide (a ≤ b)).Pairwise (· < ·) := by
  have hs := @List.pairwise_mergeSort _ (fun (a b : StreamId) => decide (a ≤ b))
    (fun _ _ _ hab hbc => decide_eq_true (Nat.le_trans (of_decide_eq_true hab)
      (of_decide_eq_true hbc)))
    (fun a b => by simpa [StreamId.le_iff] using Nat.le_total a.number b.number) l
  have hn := (List.mergeSort_perm l fun a b => decide (a ≤ b)).nodup_iff.2 h
  refine (hs.and hn).imp fun {a b} ⟨hle, hne⟩ => ?_
  have hne : a.number ≠ b.number := fun h => hne (StreamId.ext h)
  simp only [decide_eq_true_eq, StreamId.le_iff] at hle
  rw [StreamId.lt_iff]
  omega

instance : LawfulStore HashStore where
  put_eq_error := by simp [Store.put, Store.bounds]
  get?_put {t t' id m} h k := by
    cases h
    show (t.insert id m)[k]? = if k = id then some m else t[k]?
    simp only [Std.HashMap.getElem?_insert, beq_iff_eq, @eq_comm _ id k]
  bounds_put _ := rfl
  get?_modify t id f k := by
    show (t.modify id f)[k]? = if k = id then t[id]?.map f else t[k]?
    simp only [Std.HashMap.getElem?_modify, beq_iff_eq, @eq_comm _ id k]
  bounds_modify _ _ _ := rfl
  get?_erase t id k := by
    show (t.erase id)[k]? = if k = id then none else t[k]?
    simp only [Std.HashMap.getElem?_erase, beq_iff_eq, @eq_comm _ id k]
  bounds_erase _ _ := rfl
  get?_clear _ _ := Std.HashMap.getElem?_empty
  bounds_clear _ := rfl
  mem_ids {t id} := by
    show id ∈ t.keys.mergeSort _ ↔ t[id]?.isSome = true
    rw [List.mem_mergeSort, Std.HashMap.mem_keys, Std.HashMap.mem_iff_isSome_getElem?]
  ids_sorted _ := StreamId.sorted_mergeSort_of_nodup Std.HashMap.nodup_keys
  length_ids t := by
    show (t.keys.mergeSort _).length = t.size
    rw [List.length_mergeSort, Std.HashMap.length_keys]

instance : LawfulStore TreeStore where
  put_eq_error := by simp [Store.put, Store.bounds]
  get?_put {t t' id m} h k := by
    cases h
    show (t.insert id m)[k]? = if k = id then some m else t[k]?
    simp only [Std.TreeMap.getElem?_insert, Std.compare_eq_iff_eq, @eq_comm _ id k]
  bounds_put _ := rfl
  get?_modify t id f k := by
    show (t.modify id f)[k]? = if k = id then t[id]?.map f else t[k]?
    simp only [Std.TreeMap.getElem?_modify, Std.compare_eq_iff_eq, @eq_comm _ id k]
  bounds_modify _ _ _ := rfl
  get?_erase t id k := by
    show (t.erase id)[k]? = if k = id then none else t[k]?
    simp only [Std.TreeMap.getElem?_erase, Std.compare_eq_iff_eq, @eq_comm _ id k]
  bounds_erase _ _ := rfl
  get?_clear _ _ := Std.TreeMap.getElem?_emptyc
  bounds_clear _ := rfl
  mem_ids {t id} := by
    show id ∈ t.keys ↔ t[id]?.isSome = true
    rw [Std.TreeMap.mem_keys, Std.TreeMap.mem_iff_isSome_getElem?]
  ids_sorted t :=
    (@Std.TreeMap.ordered_keys _ _ _ t _).imp fun h => StreamId.lt_iff.2 (Nat.compare_eq_lt.1 h)
  length_ids _ := Std.TreeMap.length_keys

end Demux
